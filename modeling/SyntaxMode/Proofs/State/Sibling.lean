import Mathlib.Data.List.Basic
import SyntaxMode.Indent
import SyntaxMode.Proofs.Document.FullScan
import SyntaxMode.Proofs.Token.Lexing

/-!
# Arms below arms

Whether a line below an arm opens another arm is decided twice. The reader takes the longest run of
characters that can stand in a word, and looks it up (`Lexeme.effect_scanCode_eq_arm_iff`). The
hint for the line looks for the word and one character behind it (`Text.startsArm_iff`), and it
lets fewer characters continue a word. So each line that is read as an arm gets the hint of an arm,
and the lines that get it without being one are those that go on behind the word with a dollar sign
or with a character from U+00A1 on (`State.indent_arm_iff`).
-/

namespace SyntaxMode

/-! ## Words -/

namespace Text

/-- Where a text goes on with a word that ends there. -/
theorem startsWithWord_iff {word : String} {text : Text} :
    text.startsWithWord word = true ↔
      ∃ rest, text = word.toList ++ rest ∧
        ∀ c ∈ rest.head?, (c.isAlphanum || c == '_') = false := by
  rw [startsWithWord]
  cases hrest : word.toList.isPrefixOf? text with
  | none =>
    refine iff_of_false Bool.false_ne_true ?_
    rintro ⟨rest, rfl, -⟩
    rw [List.isPrefixOf?_eq_some_iff_append_eq.2 rfl] at hrest
    cases hrest
  | some rest =>
    have htext : word.toList ++ rest = text := List.isPrefixOf?_eq_some_iff_append_eq.1 hrest
    have hrest' (rest' : Text) : text = word.toList ++ rest' ↔ rest = rest' := by
      rw [← htext, List.append_cancel_left_eq]
    simp only [hrest', exists_eq_left']
    cases rest <;> simp

end Text

/-- A fragment that opens an arm is a keyword that does. -/
theorem Fragment.effect?_eq_arm_iff {fragment : Fragment} :
    fragment.effect? = some .arm ↔
      fragment.style = some .keyword ∧ Word.opensArm fragment.text = true := by
  constructor
  · intro h
    unfold effect? at h
    split at h
    next =>
      obtain ⟨_, -, ⟨_, heq, -⟩ | ⟨_, heq, -⟩⟩ := exists_char_of_bracketEffect? h <;> cases heq
    next hstyle =>
      refine ⟨hstyle, ?_⟩
      split at h
      next hword => exact hword
      next => cases h
    next => cases h
  · rintro ⟨hstyle, hword⟩
    rw [effect?, hstyle]
    exact if_pos hword

namespace Word

/-- Two words open an arm. -/
theorem opensArm_iff {word : Text} :
    opensArm word = true ↔ word = "case".toList ∨ word = "default".toList := by
  rw [opensArm, isAmong, List.any_cons, List.any_cons, List.any_nil, Bool.or_false,
    Bool.or_eq_true, beq_iff_eq, beq_iff_eq, eq_comm, eq_comm (a := "default".toList)]

/-- A word that opens an arm is a keyword. -/
theorem isKeyword_of_opensArm {word : Text} (h : opensArm word = true) :
    isKeyword word = true := by
  rcases opensArm_iff.1 h with rfl | rfl <;> decide +kernel

end Word

namespace Lexeme

/-- Where a text starts with a word that can be marked by nothing, the word is read if the text
goes on behind it with a character that continues no word. -/
theorem wordLength_append_eq_iff {first : Char} {tail rest : Text}
    (htail : tail.all Word.continues = true)
    (hmark : ['!', '?'].all (fun mark => !(Word.isKeyword (first :: tail ++ [mark]) ||
      Word.isAtom (first :: tail ++ [mark]))) = true) :
    wordLength first (tail ++ rest) = tail.length + 1 ↔
      ∀ c ∈ rest.head?, Word.continues c = false := by
  have hrun := Text.runLength_append (List.all_eq_true.1 htail) rest
  have hdrop : (tail ++ rest).drop tail.length = rest := List.drop_left
  rw [← Text.runLength_eq_zero_iff]
  simp only [wordLength, hrun]
  constructor
  · intro h
    split at h
    · omega
    · split at h <;> omega
  · intro h
    rw [h, Nat.add_zero, hdrop]
    cases rest with
    | nil => rfl
    | cons mark more =>
      have hmarked : (first :: (tail ++ mark :: more)).take (tail.length + 2) =
          first :: tail ++ [mark] := by
        rw [List.take_succ_cons, List.take_length_add_append]
        rfl
      dsimp only
      rw [hmarked, if_neg]
      rw [Bool.not_eq_true, Bool.and_eq_false_imp, Bool.or_eq_true, beq_iff_eq, beq_iff_eq]
      intro hmem
      simpa using List.all_eq_true.1 hmark mark (by simpa using hmem)

/-- What starts a text with a word that opens an arm. -/
theorem exists_cons_of_opensArm {word : Text} (h : Word.opensArm word = true) :
    ∃ first tail, word = first :: tail ∧
      (∀ rest, scanCode (first :: rest) = scanWord first rest) ∧
      tail.all Word.continues = true ∧
      ['!', '?'].all (fun mark => !(Word.isKeyword (first :: tail ++ [mark]) ||
        Word.isAtom (first :: tail ++ [mark]))) = true := by
  rcases Word.opensArm_iff.1 h with rfl | rfl
  · exact ⟨'c', "ase".toList, by decide +kernel, fun _ => rfl, by decide +kernel,
      by decide +kernel⟩
  · exact ⟨'d', "efault".toList, by decide +kernel, fun _ => rfl, by decide +kernel,
      by decide +kernel⟩

/-- A text that starts with a word which opens an arm has the lexeme of that word at its start if
it goes on with a character that continues no word. -/
theorem length_scanCode_append_eq_iff {word : Text} (h : Word.opensArm word = true)
    (rest : Text) :
    (scanCode (word ++ rest)).length = word.length ↔
      ∀ c ∈ rest.head?, Word.continues c = false := by
  obtain ⟨first, tail, rfl, hscan, htail, hmark⟩ := exists_cons_of_opensArm h
  rw [List.cons_append, hscan, scanWord_length]
  exact wordLength_append_eq_iff htail hmark

/-- **The lexemes that open arms.** A lexeme in code opens an arm if its text starts with a word
that does, and goes on with a character that continues no word. -/
theorem effect_scanCode_eq_arm_iff {text : Text} :
    (scanCode text).effect = some .arm ↔
      ∃ word rest, Word.opensArm word = true ∧ text = word ++ rest ∧
        ∀ c ∈ rest.head?, Word.continues c = false := by
  constructor
  · intro h
    rw [effect_scanCode, Fragment.effect?_eq_arm_iff] at h
    obtain ⟨-, hword⟩ := h
    refine ⟨_, text.drop (scanCode text).length, hword, (List.take_append_drop ..).symm, ?_⟩
    rw [← length_scanCode_append_eq_iff hword, List.take_append_drop,
      List.length_take_of_le (scanCode_length_le text)]
  · rintro ⟨word, rest, hword, rfl, hrest⟩
    have hlength := (length_scanCode_append_eq_iff hword rest).2 hrest
    have htake : (word ++ rest).take (scanCode (word ++ rest)).length = word := by
      rw [hlength]
      exact List.take_left
    obtain ⟨first, tail, rfl, hscan, -⟩ := exists_cons_of_opensArm hword
    rw [List.cons_append, hscan, scanWord_length] at htake
    rw [List.cons_append, hscan]
    simp only [scanWord, htake, Word.isKeyword_of_opensArm hword, hword, if_true]

end Lexeme

/-! ## Hints -/

/-- Where a text starts with a word that opens an arm, as the hint for a line sees it. -/
theorem Text.startsArm_iff {text : Text} :
    text.startsArm = true ↔
      ∃ word rest, Word.opensArm word = true ∧ text = word ++ rest ∧
        ∀ c ∈ rest.head?, (c.isAlphanum || c == '_') = false := by
  rw [startsArm, Bool.or_eq_true, startsWithWord_iff, startsWithWord_iff]
  constructor
  · rintro (⟨rest, htext, hrest⟩ | ⟨rest, htext, hrest⟩)
    · exact ⟨_, rest, Word.opensArm_iff.2 (.inl rfl), htext, hrest⟩
    · exact ⟨_, rest, Word.opensArm_iff.2 (.inr rfl), htext, hrest⟩
  · rintro ⟨word, rest, hword, htext, hrest⟩
    rcases Word.opensArm_iff.1 hword with rfl | rfl
    · exact .inl ⟨rest, htext, hrest⟩
    · exact .inr ⟨rest, htext, hrest⟩

namespace Word

/-- A text starts with one word at most that opens an arm. -/
theorem append_eq_append_of_opensArm {word word' rest rest' : Text}
    (h : opensArm word = true) (h' : opensArm word' = true) (heq : word ++ rest = word' ++ rest') :
    rest = rest' := by
  have hhead := congrArg List.head? heq
  rcases opensArm_iff.1 h with rfl | rfl <;> rcases opensArm_iff.1 h' with rfl | rfl
  · exact List.append_cancel_left heq
  · cases hhead
  · cases hhead
  · exact List.append_cancel_left heq

/-- What the hint for a line takes to continue a word does. -/
theorem not_ascii_of_continues_eq_false {c : Char} (h : continues c = false) :
    (c.isAlphanum || c == '_') = false := by
  rw [continues, Bool.or_eq_false_iff, Bool.or_eq_false_iff] at h
  exact h.1.1

/-- From U+00A1 on there are no letters, digits or underscores of ASCII. -/
theorem not_ascii_of_le {c : Char} (h : '\u00a1' ≤ c) : (c.isAlphanum || c == '_') = false := by
  have hbeyond (bound : Char) (hbound : bound < '\u00a1') : ¬ c.val ≤ bound.val :=
    Nat.not_le.2 (Nat.lt_of_lt_of_le hbound h)
  have hupper : c.isUpper = false := decide_eq_false fun hc => hbeyond 'Z' (by decide) hc.2
  have hlower : c.isLower = false :=
    Bool.and_eq_false_iff.2 (.inr (decide_eq_false (hbeyond 'z' (by decide))))
  have hdigit : c.isDigit = false :=
    Bool.and_eq_false_iff.2 (.inr (decide_eq_false (hbeyond '9' (by decide))))
  have hne : c ≠ '_' := by
    rintro rfl
    exact absurd h (by decide)
  have halphanum : c.isAlphanum = ((c.isUpper || c.isLower) || c.isDigit) := rfl
  rw [halphanum, hupper, hlower, hdigit, beq_false_of_ne hne]
  rfl

/-- The characters that continue a word and of which the hint for a line does not know it. -/
theorem continues_and_not_ascii_iff {c : Char} :
    continues c = true ∧ (c.isAlphanum || c == '_') = false ↔ c = '$' ∨ '\u00a1' ≤ c := by
  have hascii (h : c = '$' ∨ '\u00a1' ≤ c) : (c.isAlphanum || c == '_') = false := by
    rcases h with rfl | hle
    · decide
    · exact not_ascii_of_le hle
  constructor
  · rintro ⟨hcontinues, hascii⟩
    rw [continues, hascii, Bool.false_or, Bool.or_eq_true, beq_iff_eq, decide_eq_true_eq]
      at hcontinues
    exact hcontinues
  · intro h
    refine ⟨?_, hascii h⟩
    rw [continues, hascii h, Bool.false_or, Bool.or_eq_true, beq_iff_eq, decide_eq_true_eq]
    exact h

end Word

namespace Text

variable {text : Text}

/-- A text that is read as an arm looks like one. -/
theorem startsArm_of_effect_eq_arm (h : (Lexeme.scanCode text).effect = some .arm) :
    text.startsArm = true := by
  obtain ⟨word, rest, hword, htext, hrest⟩ := Lexeme.effect_scanCode_eq_arm_iff.1 h
  exact startsArm_iff.2
    ⟨word, rest, hword, htext, fun c hc => Word.not_ascii_of_continues_eq_false (hrest c hc)⟩

/-- The texts that look like an arm and are not read as one: they go on behind the word with a
character that continues it. -/
theorem startsArm_and_effect_ne_arm_iff :
    text.startsArm = true ∧ (Lexeme.scanCode text).effect ≠ some .arm ↔
      ∃ word c rest, Word.opensArm word = true ∧ text = word ++ c :: rest ∧
        (c = '$' ∨ '\u00a1' ≤ c) := by
  rw [startsArm_iff, Ne, Lexeme.effect_scanCode_eq_arm_iff]
  constructor
  · rintro ⟨⟨word, rest, hword, htext, hrest⟩, hnot⟩
    cases rest with
    | nil => exact absurd ⟨word, [], hword, htext, fun c hc => by cases hc⟩ hnot
    | cons c rest =>
      refine ⟨word, c, rest, hword, htext,
        Word.continues_and_not_ascii_iff.1 ⟨?_, hrest c rfl⟩⟩
      by_contra hcontinues
      refine hnot ⟨word, c :: rest, hword, htext, ?_⟩
      rintro _ ⟨⟩
      simpa using hcontinues
  · rintro ⟨word, c, rest, hword, htext, hc⟩
    obtain ⟨hcontinues, hascii⟩ := Word.continues_and_not_ascii_iff.2 hc
    refine ⟨⟨word, c :: rest, hword, htext, ?_⟩, ?_⟩
    · rintro _ ⟨⟩
      exact hascii
    · rintro ⟨word', rest', hword', htext', hrest'⟩
      cases Word.append_eq_append_of_opensArm hword hword' (htext.symm.trans htext')
      rw [hrest' c rfl] at hcontinues
      cases hcontinues

end Text

/-- The first lexeme of a line is a keyword that opens an arm if the lexeme behind the blanks at
the start of the line opens one. -/
theorem exists_head?_lexemesOf_iff (config : Config) {state : State}
    (hregion : state.region = .code) (text : Text) :
    (∃ word, Word.opensArm word = true ∧
        (lexemesOf (lineTokens config state text)).head? = some ⟨word, some .keyword⟩) ↔
      (Lexeme.scanCode text.trimStart).effect = some .arm := by
  by_cases htrim : text.trimStart = []
  · rw [lexemesOf_lineTokens_of_trimStart_eq_nil config state htrim, htrim]
    simp [Lexeme.scanCode]
  · obtain ⟨fragment, rest, hlexemes, heffect⟩ :=
      exists_lexemesOf_lineTokens_eq_cons config state htrim
    have hscan : Lexeme.scan state.region text.trimStart = Lexeme.scanCode text.trimStart := by
      rw [hregion]
      rfl
    rw [hlexemes, List.head?_cons, ← hscan, ← heffect, Fragment.effect?_eq_arm_iff]
    constructor
    · rintro ⟨word, hword, hfragment⟩
      cases hfragment
      exact ⟨rfl, hword⟩
    · rintro ⟨hstyle, hword⟩
      exact ⟨fragment.text, hword, congrArg some (congrArg (Fragment.mk fragment.text) hstyle)⟩

namespace State

/-- The hint and the state for a line that opens an arm below another one. -/
def siblingArm (state : State) : IndentHint × State :=
  (.column (Column.ofSigned state.context.indented),
    { state with nesting := state.nesting.modify Context.endArm })

/-- Below an arm, a line gets the hint of another arm if it looks like one. -/
theorem indent_eq_siblingArm_iff (config : Config) {state : State} (hregion : state.region = .code)
    (harm : state.context.kind = .arm) (text : Text) :
    state.indent config text = state.siblingArm ↔ text.trimStart.startsArm = true := by
  rw [indent, if_neg (not_not.2 hregion)]
  by_cases hstarts : text.trimStart.startsArm = true
  · exact iff_of_true (if_pos ⟨harm, hstarts⟩) hstarts
  · refine iff_of_false ?_ hstarts
    dsimp only
    rw [if_neg fun h => hstarts h.2]
    intro heq
    -- The arm would have ended.
    have hkind : state.context.kind = (state.nesting.modify Context.endArm).innermost.kind :=
      congrArg (fun hint => hint.2.context.kind) heq
    have hended : (state.nesting.modify Context.endArm).innermost.kind =
        state.context.kind.endArm :=
      congrArg Context.kind (state.nesting.innermost_modify Context.endArm)
    rw [hended, harm] at hkind
    cases hkind

/-- **Arms, for hints and for the reader.** Below an arm, a line whose first lexeme is the keyword
`case` or `default` gets the hint of another arm. The other lines that get it are those that go on
behind the word with a dollar sign or with a character from U+00A1 on: this character continues the
word for the reader, and not for the hint. -/
theorem indent_arm_iff (config : Config) (state : State) (text : Text)
    (hregion : state.region = .code) (harm : state.context.kind = .arm) :
    let isArm := ∃ word, Word.opensArm word = true ∧
      (lexemesOf (lineTokens config state text)).head? = some ⟨word, some .keyword⟩
    let isHintedArm := state.indent config text = state.siblingArm
    (isArm → isHintedArm) ∧
      (isHintedArm ∧ ¬ isArm ↔ ∃ word c rest, Word.opensArm word = true ∧
        text.trimStart = word ++ c :: rest ∧ (c = '$' ∨ '\u00a1' ≤ c)) := by
  intro isArm isHintedArm
  have hread : isArm ↔ _ := exists_head?_lexemesOf_iff config hregion text
  have hhint : isHintedArm ↔ _ := indent_eq_siblingArm_iff config hregion harm text
  rw [hread, hhint]
  exact ⟨Text.startsArm_of_effect_eq_arm, Text.startsArm_and_effect_ne_arm_iff⟩

/-- The theorem for the last arm of a `switch`. -/
theorem indent_arm_iff_default :
    let state := stateBehind {} (initial {}) [r"switch x {".toList, "  case 1: y".toList]
    (state.region = .code ∧ state.context.kind = .arm) ∧
      state.indent {} "  default: z".toList = state.siblingArm := by
  intro state
  have hregion : state.region = .code := by decide +kernel
  have harm : state.context.kind = .arm := by decide +kernel
  have hlexeme : (lexemesOf (lineTokens {} state "  default: z".toList)).head? =
      some ⟨"default".toList, some .keyword⟩ := by decide +kernel
  exact ⟨⟨hregion, harm⟩, (indent_arm_iff {} state "  default: z".toList hregion harm).1
    ⟨"default".toList, Word.opensArm_iff.2 (.inr rfl), hlexeme⟩⟩

/-- The only lexeme of a line is a variable, and the line gets the hint of an arm. -/
theorem indent_variable_eq_siblingArm :
    let state := stateBehind {} (initial {}) [r"switch x {".toList, "  case 1: y".toList]
    let lexemes := lexemesOf (lineTokens {} state "case$x".toList)
    (state.region = .code ∧ state.context.kind = .arm) ∧
      lexemes = [⟨"case$x".toList, some .variable⟩] ∧
      ¬ (state.indent {} "case$x".toList = state.siblingArm ↔
        ∃ word, Word.opensArm word = true ∧ lexemes.head? = some ⟨word, some .keyword⟩) := by
  intro state lexemes
  have hstate : state.region = .code ∧ state.context.kind = .arm := by decide +kernel
  have hlexemes : lexemes = [⟨"case$x".toList, some .variable⟩] := by decide +kernel
  have hhint : state.indent {} "case$x".toList = state.siblingArm := by decide +kernel
  refine ⟨hstate, hlexemes, fun h => ?_⟩
  obtain ⟨word, -, hhead⟩ := h.1 hhint
  rw [hlexemes] at hhead
  cases hhead

end State

end SyntaxMode
