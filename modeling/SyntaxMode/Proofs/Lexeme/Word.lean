import SyntaxMode.Proofs.Lexeme.Space
import SyntaxMode.Proofs.State.Sibling

/-!
# Words

A word starts with any character that starts no other lexeme, and goes on as far as letters, digits
and the like go (`Word.Continues`). A mark behind it belongs to it if the two together stand in a
table. `Word.Spells` says so of the text alone, and `Word.kind` classifies a word by the first
table it stands in. The reader slices the line to look at the mark, and goes by the byte length of
a word before it compares any; `Lexeme.spells_iff` and `Word.isKeyword_iff` show that it comes to
the same, and `read_word` puts it together for a token.
-/

namespace SyntaxMode

namespace Word

/-- The characters, digits apart, that start a lexeme which is no word. -/
def others : List Char :=
  ['"', '\'', '\x60', '.', '(', '[', '{', ')', ']', '}', ',', ';', ':', '/', '+', '-', '*', '&',
   '^', '%', '=', '<', '>', '!', '|']

/-- Whether a character starts a word in code, unless it is blank. -/
def Starts (c : Char) : Prop := c.isDigit = false ∧ c ∉ others

/-- Whether a character goes on with a word: the letters and digits of ASCII do, underscores and
dollar signs, and all characters from U+00A1 on. -/
def Continues (c : Char) : Prop :=
  ('A' ≤ c ∧ c ≤ 'Z') ∨ ('a' ≤ c ∧ c ≤ 'z') ∨ ('0' ≤ c ∧ c ≤ '9') ∨ c = '_' ∨ c = '$' ∨
    '\u00a1' ≤ c

instance : DecidablePred Starts := fun c => inferInstanceAs (Decidable (c.isDigit = false ∧ _))

instance : DecidablePred Continues := fun _ => inferInstanceAs (Decidable (_ ∧ _ ∨ _))

/-- Whether a word stands in a table. -/
def Tabled (word : Text) : Prop := String.ofList word ∈ keywords ∨ String.ofList word ∈ atoms

instance : DecidablePred Tabled := fun word =>
  inferInstanceAs (Decidable (String.ofList word ∈ keywords ∨ _))

/-- How a word is colored: by the table that it stands in, and by the one of keywords if it stands
in both. -/
def kind (word : Text) : Style :=
  if String.ofList word ∈ keywords then .keyword
  else if String.ofList word ∈ atoms then .atom
  else .variable

/-- The styles of words. -/
def styles : List (Option Style) := [some .keyword, some .atom, some .variable]

/-- The word at the start of a text, if its first character starts one. -/
inductive Spells (first : Char) : Text → Text → Prop where
  /-- All characters that go on with it, and no mark behind them that makes a word of a table. -/
  | plain {run behind : Text} (hrun : ∀ c ∈ run, Continues c)
      (hends : ∀ c ∈ behind.head?, ¬ Continues c)
      (hmark : ∀ mark ∈ behind.head?,
        mark = '!' ∨ mark = '?' → ¬ Tabled (first :: run ++ [mark])) :
      Spells first (run ++ behind) (first :: run)
  /-- All characters that go on with it, and a mark that makes a word of a table. -/
  | marked {run behind : Text} {mark : Char} (hrun : ∀ c ∈ run, Continues c)
      (hmark : mark = '!' ∨ mark = '?') (htabled : Tabled (first :: run ++ [mark])) :
      Spells first (run ++ mark :: behind) (first :: run ++ [mark])

/-- Whether a word is read at a cursor in a state. -/
structure StartsAt (cursor : Cursor) (state : State) (first : Char) (rest : Text) : Prop where
  region : state.region = .code
  ahead : cursor.ahead = first :: rest
  notBlank : isBlank first = false
  starts : Starts first

/-! ## Tables -/

section
variable {words words' : List String} {word : Text}

/-- A word is found among words if it is one of them. -/
theorem isAmong_iff : isAmong words word = true ↔ String.ofList word ∈ words := by
  simp only [isAmong, List.any_eq_true, beq_iff_eq]
  constructor
  · rintro ⟨candidate, hmem, rfl⟩
    rwa [String.ofList_toList]
  · intro hmem
    exact ⟨_, hmem, String.toList_ofList⟩

/-- A word that is among some words is among more words too. -/
theorem isAmong_of_subset (hsubset : words ⊆ words') (h : isAmong words word = true) :
    isAmong words' word = true :=
  isAmong_iff.2 (hsubset (isAmong_iff.1 h))

/-- A look-up that finds no more than the words of a table, and all of them, is one in the
table. -/
theorem lookup_iff {lookup : Text → Bool}
    (hsound : lookup word = true → isAmong words word = true)
    (hcomplete : ∀ candidate ∈ words, lookup candidate.toList = true) :
    lookup word = true ↔ String.ofList word ∈ words := by
  rw [← isAmong_iff]
  constructor
  · exact hsound
  · intro h
    obtain ⟨candidate, hmem, heq⟩ := List.any_eq_true.1 h
    rw [← beq_iff_eq.1 heq]
    exact hcomplete candidate hmem

/-- The byte length of a word turns no keyword away. -/
theorem isKeyword_iff : isKeyword word = true ↔ String.ofList word ∈ keywords := by
  refine lookup_iff ?_ (by decide +kernel)
  intro h
  unfold isKeyword at h
  split at h
  case h_8 => cases h
  all_goals exact isAmong_of_subset (by decide) h

/-- The byte length of a word turns no atom away. -/
theorem isAtom_iff : isAtom word = true ↔ String.ofList word ∈ atoms := by
  refine lookup_iff ?_ (by decide +kernel)
  intro h
  unfold isAtom at h
  split at h
  case h_4 => cases h
  all_goals exact isAmong_of_subset (by decide) h

/-- **Look-ups by length.** A word is found among the words of its byte length if it stands in the
table, and only then. -/
theorem lookups_iff_mem (word : String) :
    (isKeyword word.toList = true ↔ word ∈ keywords) ∧
      (isAtom word.toList = true ↔ word ∈ atoms) := by
  rw [isKeyword_iff, isAtom_iff, String.ofList_toList]
  exact ⟨Iff.rfl, Iff.rfl⟩

/-- A word is in a table if one of the two look-ups finds it. -/
theorem tabled_iff : Tabled word ↔ (isKeyword word || isAtom word) = true := by
  rw [Bool.or_eq_true, isKeyword_iff, isAtom_iff, Tabled]

end

/-! ## Characters -/

/-- The characters that go on with a word are those that the rules name. -/
theorem continues_iff {c : Char} : continues c = true ↔ Continues c := by
  have hdigit : c.isDigit = (decide ('0' ≤ c) && decide (c ≤ '9')) := rfl
  have hupper : c.isUpper = decide ('A' ≤ c ∧ c ≤ 'Z') := rfl
  have hlower : c.isLower = (decide ('a' ≤ c) && decide (c ≤ 'z')) := rfl
  have halphanum : c.isAlphanum = ((c.isUpper || c.isLower) || c.isDigit) := rfl
  rw [continues, Continues, halphanum, hdigit, hupper, hlower]
  simp only [Bool.or_eq_true, Bool.and_eq_true, decide_eq_true_eq, beq_iff_eq, or_assoc]

/-- Each character of a run goes on with the word. -/
theorem forall_continues {run : Text} (h : run.all continues = true) : ∀ c ∈ run, Continues c :=
  fun c hc => continues_iff.1 (List.all_eq_true.1 h c hc)

/-- The two marks do not go on with a word. -/
theorem not_continues_of_mark {mark : Char} (h : mark = '!' ∨ mark = '?') : ¬ Continues mark := by
  rw [← continues_iff]
  rcases h with rfl | rfl <;> decide

/-- A character that starts a word is none of those that start something else. -/
theorem Starts.ne {first c : Char} (h : Starts first) (hc : c ∈ others) : first ≠ c := by
  rintro rfl
  exact h.2 hc

end Word

/-! ## How far a word goes -/

namespace Lexeme

open Word

variable {first : Char} {run behind rest text : Text}

/-- What is behind the run of a word decides whether the word ends there. -/
theorem wordLength_append (hrun : ∀ c ∈ run, Continues c)
    (hends : ∀ c ∈ behind.head?, ¬ Continues c) :
    wordLength first (run ++ behind) =
      match behind with
      | [] => run.length + 1
      | mark :: _ =>
        if (mark = '!' ∨ mark = '?') ∧ Tabled (first :: run ++ [mark]) then run.length + 2
        else run.length + 1 := by
  have hlength : (run ++ behind).runLength Word.continues = run.length := by
    have hnone : behind.runLength Word.continues = 0 := by
      rw [Text.runLength_eq_zero_iff]
      intro c hc
      rw [Bool.eq_false_iff, ne_eq, continues_iff]
      exact hends c hc
    rw [Text.runLength_append fun c hc => continues_iff.2 (hrun c hc), hnone, Nat.add_zero]
  have hdrop : (run ++ behind).drop run.length = behind := List.drop_left
  simp only [wordLength, hlength, hdrop]
  cases behind with
  | nil => rfl
  | cons mark behind =>
    have hmarked : (first :: (run ++ mark :: behind)).take (run.length + 2) =
        first :: run ++ [mark] := by
      rw [List.take_succ_cons, List.take_length_add_append]
      rfl
    simp only [hmarked, Bool.and_eq_true, ← tabled_iff, Bool.or_eq_true (mark == '!'), beq_iff_eq]

/-- What a text spells is what is read as a word. -/
theorem eq_take_of_spells (h : Spells first rest text) :
    text = (first :: rest).take (wordLength first rest) := by
  cases h with
  | @plain run behind hrun hends hmark =>
    have hlength : wordLength first (run ++ behind) = run.length + 1 := by
      rw [wordLength_append hrun hends]
      cases behind with
      | nil => rfl
      | cons mark behind => exact if_neg (not_and.2 (hmark mark rfl))
    rw [hlength, List.take_succ_cons, List.take_left]
  | @marked run behind mark hrun hmark htabled =>
    have hends : ∀ c ∈ (mark :: behind).head?, ¬ Continues c := by
      rintro _ ⟨⟩
      exact not_continues_of_mark hmark
    have hlength : wordLength first (run ++ mark :: behind) = run.length + 2 := by
      rw [wordLength_append hrun hends]
      exact if_pos ⟨hmark, htabled⟩
    rw [hlength, List.take_succ_cons, List.take_length_add_append]
    rfl

/-- Every text spells a word. -/
theorem exists_spells (first : Char) (rest : Text) : ∃ text, Spells first rest text := by
  have hrest : rest.takeWhile Word.continues ++ rest.dropWhile Word.continues = rest :=
    List.takeWhile_append_dropWhile
  have hrun : ∀ c ∈ rest.takeWhile Word.continues, Continues c := by
    intro c hc
    exact continues_iff.1 (List.mem_takeWhile_imp hc)
  have hends : ∀ c ∈ (rest.dropWhile Word.continues).head?, ¬ Continues c := by
    intro c hc hcontinues
    have hfalse := List.head?_dropWhile_not Word.continues rest
    rw [Option.mem_def.1 hc] at hfalse
    exact Bool.false_ne_true (hfalse.symm.trans (continues_iff.2 hcontinues))
  by_cases hmark : ∃ mark ∈ (rest.dropWhile Word.continues).head?, (mark = '!' ∨ mark = '?') ∧
      Tabled (first :: rest.takeWhile Word.continues ++ [mark])
  · obtain ⟨mark, hhead, hmark, htabled⟩ := hmark
    obtain ⟨behind, hbehind⟩ := List.head?_eq_some_iff.1 hhead
    rw [← hrest, hbehind]
    exact ⟨_, .marked hrun hmark htabled⟩
  · rw [← hrest]
    refine ⟨_, .plain hrun hends ?_⟩
    intro mark hhead hisMark htabled
    exact hmark ⟨mark, hhead, hisMark, htabled⟩

/-- **The spelling of a word.** A word is read as far as the text spells it. -/
theorem spells_iff :
    Spells first rest text ↔ text = (first :: rest).take (wordLength first rest) := by
  constructor
  · exact eq_take_of_spells
  · rintro rfl
    obtain ⟨text, htext⟩ := exists_spells first rest
    rwa [← eq_take_of_spells htext]

/-! ## Which lexemes are words -/

/-- A character that starts no other lexeme starts a word. -/
theorem scanCode_of_starts (h : Starts first) (rest : Text) :
    scanCode (first :: rest) = scanWord first rest := by
  have hquote : Quote.ofChar? first = none := by
    unfold Quote.ofChar?
    split <;> first | rfl | exact absurd rfl (h.ne (by decide))
  have hopener : Delimiter.ofOpener? first = none := by
    unfold Delimiter.ofOpener?
    split <;> first | rfl | exact absurd rfl (h.ne (by decide))
  have hcloser : Delimiter.ofCloser? first = none := by
    unfold Delimiter.ofCloser?
    split <;> first | rfl | exact absurd rfl (h.ne (by decide))
  have hnumber : Number.startsNumber first = false := by
    simp [Number.startsNumber, h.1, h.ne (show '.' ∈ others by decide)]
  have hseparator : isSeparator first = false := by
    simp [isSeparator, h.ne (show ',' ∈ others by decide), h.ne (show ';' ∈ others by decide),
      h.ne (show ':' ∈ others by decide)]
  have hslash : first ≠ '/' := h.ne (by decide)
  have hoperator : isOperatorSign first = false := by
    rw [Bool.eq_false_iff]
    intro hsign
    have hsigns : ['+', '-', '*', '&', '^', '%', ':', '=', '<', '>', '!', '|', '/'] ⊆ others := by
      decide
    exact h.2 (hsigns (List.contains_iff_mem.1 hsign))
  simp [scanCode, hquote, hopener, hcloser, hnumber, hseparator, hslash, hoperator]

/-- The word that is read, with its style and its effect. -/
theorem scanWord_eq (first : Char) (rest : Text) :
    let word := (first :: rest).take (wordLength first rest)
    scanWord first rest =
      ⟨wordLength first rest, some (kind word),
        if word = "case".toList ∨ word = "default".toList then some .arm else none, .code⟩ := by
  have harm (word : Text) (h : isKeyword word = false) : opensArm word = false := by
    rw [Bool.eq_false_iff] at h ⊢
    exact mt isKeyword_of_opensArm h
  simp only [scanWord, kind, colored, ← isKeyword_iff, ← isAtom_iff, ← opensArm_iff]
  generalize (first :: rest).take (wordLength first rest) = word
  cases hkeyword : isKeyword word with
  | true => simp
  | false => cases isAtom word <;> simp [harm word hkeyword]

/-- The kind of a word is one of the three styles of words. -/
theorem kind_mem_styles (word : Text) : some (kind word) ∈ styles := by
  unfold kind styles
  split
  · simp
  · split <;> simp

/-- No other character does. -/
theorem starts_of_style (h : (scanCode (first :: rest)).style ∈ styles) : Starts first := by
  cases startsCode first with
  | word hword =>
    have hstyle : (scanCode [first]).style ∈ styles := by
      rw [hword, scanWord_eq]
      exact kind_mem_styles _
    constructor
    · rw [Bool.eq_false_iff]
      intro hdigit
      rw [scanCode_of_startsNumber (Number.startsNumber_iff.2 (.inl hdigit))] at hstyle
      simp [styles, colored] at hstyle
    · intro hmem
      have hothers : (others.all fun c => (scanCode [c]).style ∉ styles) = true := by
        decide +kernel
      exact of_decide_eq_true (List.all_eq_true.1 hothers first hmem) hstyle
  | slash _ hslash =>
    rw [hslash] at h
    rcases style_scanSlash rest with hstyle | hstyle <;> simp [styles, hstyle] at h
  | string quote hother | punctuation effect hother | number _ hother | operator hother =>
    rw [hother] at h
    simp [styles, scanString, punctuation, colored] at h

end Lexeme

/-! ## Reading a word -/

namespace Word.StartsAt

variable {cursor : Cursor} {state : State} {first : Char} {rest : Text}

/-- No blanks come before a word at which a cursor stands. -/
theorem blankRun_eq_zero (h : StartsAt cursor state first rest) : cursor.ahead.blankRun = 0 := by
  rw [h.ahead, Text.blankRun, Text.runLength_eq_zero_iff]
  rintro _ ⟨⟩
  exact h.notBlank

/-- The lexeme at the start of a word is the word. -/
theorem scan_eq (h : StartsAt cursor state first rest) :
    Lexeme.scan state.region cursor.ahead = Lexeme.scanWord first rest := by
  rw [h.region, h.ahead]
  exact Lexeme.scanCode_of_starts h.starts rest

/-- A word is read as far as it goes. It counts as a lexeme behind the bracket that it stands in,
and makes an arm of its context if it is one of two words. -/
theorem read_eq (h : StartsAt cursor state first rest) (config : Config) :
    let entered := state.atCursor config.tabSize cursor
    let behind : State :=
      ⟨.code, entered.nesting.modify Context.afterLexeme, entered.indented, false⟩
    let word := (first :: rest).take (Lexeme.wordLength first rest)
    Token.read config cursor state =
      { text := word
        style := some (kind word)
        cursor := cursor.begin.forward (Lexeme.wordLength first rest)
        after := if word = "case".toList ∨ word = "default".toList then behind.openArm
          else behind } := by
  intro entered behind word
  rw [Token.read_of_blankRun_eq_zero config state h.blankRun_eq_zero, h.scan_eq, h.ahead,
    Lexeme.scanWord_eq]
  have hstyle : some (kind word) ≠ some .comment := by
    intro hcomment
    have hmem := Lexeme.kind_mem_styles word
    rw [hcomment] at hmem
    simp [styles] at hmem
  rw [State.afterLexeme, if_neg hstyle]
  by_cases harm : word = "case".toList ∨ word = "default".toList
  · rw [if_pos harm, if_pos harm]
    rfl
  · rw [if_neg harm, if_neg harm]

/-- Where a token is styled as a word, one starts. -/
theorem exists_of_style (config : Config) (cursor : Cursor) (state : State)
    (h : (Token.read config cursor state).style ∈ styles) :
    ∃ first rest, StartsAt cursor state first rest := by
  by_cases hblank : cursor.ahead.blankRun = 0
  · rw [Token.read_of_blankRun_eq_zero config state hblank] at h
    cases hregion : state.region with
    | string quote => simp [hregion, Lexeme.scan, styles] at h
    | comment => simp [hregion, Lexeme.scan, styles] at h
    | code =>
      cases hahead : cursor.ahead with
      | nil => simp [hregion, hahead, Lexeme.scan, Lexeme.scanCode, styles] at h
      | cons first rest =>
        rw [hahead] at hblank
        simp only [hregion, hahead, Lexeme.scan] at h
        exact ⟨first, rest, hregion, hahead, Text.isBlank_of_blankRun_eq_zero hblank,
          Lexeme.starts_of_style h⟩
  · rw [Token.read_of_blankRun_ne_zero config state hblank] at h
    simp [styles] at h

end Word.StartsAt

/-- **Words.** A token is styled as a word if it is in code and starts with a character that starts
no other lexeme. It then is the word that the text spells, styled by the first table in which it
stands; it makes an arm of its context if it is `case` or `default`, and leaves the kind of the
context alone otherwise. The reader comes to the same by byte offsets. -/
theorem read_word (config : Config) (cursor : Cursor) (state : State) :
    let token := Token.read config cursor state
    let effect := (Lexeme.scan state.region cursor.ahead).effect
    (token.style ∈ Word.styles ↔ ∃ first rest, Word.StartsAt cursor state first rest) ∧
      ∀ first rest, Word.StartsAt cursor state first rest →
        let entered := state.atCursor config.tabSize cursor
        let behind : State :=
          ⟨.code, entered.nesting.modify Context.afterLexeme, entered.indented, false⟩
        (∀ text, Word.Spells first rest text ↔ text = token.text) ∧
          token.style = some (Word.kind token.text) ∧
          (if token.text = "case".toList ∨ token.text = "default".toList then
              effect = some .arm ∧ token.after = behind.openArm
            else effect = none ∧ token.after = behind) ∧
          Offsets.Runs Offsets.word (cursor.begin.forward 1) ⟨token.style, effect, .code⟩
            token.cursor := by
  intro token effect
  constructor
  · constructor
    · exact Word.StartsAt.exists_of_style config cursor state
    · rintro ⟨first, rest, h⟩
      simp only [token, h.read_eq]
      exact Lexeme.kind_mem_styles _
  · intro first rest h entered behind
    have hread := h.read_eq config
    have heffect := congrArg Lexeme.effect h.scan_eq
    have hruns := Offsets.runs_word h.ahead
    rw [Lexeme.scanWord_eq] at heffect
    rw [Lexeme.scanWord_length, Lexeme.scanWord_eq] at hruns
    simp only [token, effect, hread, heffect]
    refine ⟨fun text => Lexeme.spells_iff, trivial, ?_, hruns⟩
    split
    next harm => exact ⟨rfl, rfl⟩
    next harm => exact ⟨rfl, rfl⟩

/-- The theorem for a word with a mark that makes it an atom, before another mark, and for one that
opens an arm before a mark. -/
theorem read_word_marks :
    let atom := Token.read {} (.ofLine "ayok?!".toList) (State.initial {})
    let keyword := Token.read {} (.ofLine "case?".toList) (State.initial {})
    atom.text = "ayok?".toList ∧ atom.style = some .atom ∧
      keyword.text = "case".toList ∧ keyword.style = some .keyword ∧
      keyword.after.context.kind = .arm := by
  intro atom keyword
  have hatom : Word.StartsAt (.ofLine "ayok?!".toList) (State.initial {}) 'a' "yok?!".toList :=
    ⟨rfl, rfl, rfl, by decide⟩
  have hkeyword : Word.StartsAt (.ofLine "case?".toList) (State.initial {}) 'c' "ase?".toList :=
    ⟨rfl, rfl, rfl, by decide⟩
  have hatomSpells : Word.Spells 'a' "yok?!".toList "ayok?".toList :=
    @Word.Spells.marked 'a' ['y', 'o', 'k'] ['!'] '?' (Word.forall_continues rfl) (.inr rfl)
      (by decide)
  have hkeywordSpells : Word.Spells 'c' "ase?".toList "case".toList :=
    @Word.Spells.plain 'c' ['a', 's', 'e'] ['?'] (Word.forall_continues rfl)
      (by rintro _ ⟨⟩; decide) (by rintro _ ⟨⟩ -; decide)
  obtain ⟨hatomText, hatomStyle, -⟩ := (read_word {} _ _).2 _ _ hatom
  obtain ⟨hkeywordText, hkeywordStyle, hkeywordEffect, -⟩ := (read_word {} _ _).2 _ _ hkeyword
  have hatomRead := ((hatomText _).1 hatomSpells).symm
  have hkeywordRead := ((hkeywordText _).1 hkeywordSpells).symm
  rw [hatomRead] at hatomStyle
  rw [hkeywordRead] at hkeywordStyle hkeywordEffect
  refine ⟨hatomRead, hatomStyle, hkeywordRead, hkeywordStyle, ?_⟩
  have hafter := ((if_pos (.inl rfl)).mp hkeywordEffect).2
  exact congrArg (fun state : State => state.context.kind) hafter

end SyntaxMode
