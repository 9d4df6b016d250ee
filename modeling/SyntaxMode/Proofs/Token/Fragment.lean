import SyntaxMode.Document.Basic

/-!
# Fragments

A fragment is what an editor shows of a token: its text and its style. The spans of a line cut its
text into the fragments of its tokens (`fragments_scan`). What a lexeme does to the contexts can be
read off its fragment (`effect_scan`), so a statement about brackets or arms needs no more than the
colored text.
-/

namespace SyntaxMode

/-- A part of a line as it is colored. -/
structure Fragment where
  text : Text
  style : Option Style
  deriving DecidableEq, Repr

namespace Fragment

/-- Whether the fragment is a run of blanks. -/
def isBlank (fragment : Fragment) : Bool := fragment.text.isAllBlank

/-- What an uncolored text does to the contexts: a bracket opens or closes one. -/
def bracketEffect? : Text → Option Effect
  | [c] =>
    match Delimiter.ofOpener? c with
    | some delimiter => some (.opening delimiter)
    | none => (Delimiter.ofCloser? c).map .closing
  | _ => none

/-- What the fragment does to the contexts around it: an uncolored bracket opens or closes one, and
a keyword may open an arm. -/
def effect? (fragment : Fragment) : Option Effect :=
  match fragment.style with
  | none => bracketEffect? fragment.text
  | some .keyword => if Word.opensArm fragment.text then some .arm else none
  | some _ => none

end Fragment

/-- The fragments of a line, in the order of its spans. -/
def Line.fragments (line : Line) : List Fragment :=
  line.spans.map fun span => ⟨(line.text.slice? span.start span.stop).getD [], span.style⟩

/-- The fragments of a line that are not blank. -/
def Line.lexemes (line : Line) : List Fragment :=
  line.fragments.filter fun fragment => !fragment.isBlank

/-- What an editor shows of a token. -/
def Token.fragment (token : Token) : Fragment := ⟨token.text, token.style⟩

/-- The fragments of tokens that are not blank. -/
def lexemesOf (tokens : List Token) : List Fragment :=
  (tokens.map Token.fragment).filter fun fragment => !fragment.isBlank

/-! ## The fragments of a line -/

/-- The text between the end of one part and the end of the next is the next part. -/
theorem Text.slice?_append (before text after : Text) :
    (before ++ text ++ after).slice? before.byteLength (before.byteLength + text.byteLength) =
      some text := by
  have hpart : splitAtByte? (before.byteLength + text.byteLength - before.byteLength)
      (text ++ after) = some (text, after) := by
    rw [Nat.add_sub_cancel_left, splitAtByte?_byteLength_append]
  have hguard : (guard (before.byteLength ≤ before.byteLength + text.byteLength) : Option Unit) =
      some () := if_pos (Nat.le_add_right ..)
  rw [slice?, hguard, List.append_assoc, Option.bind_eq_bind, Option.bind_some,
    splitAtByte?_byteLength_append]
  exact congrArg (·.bind fun parts => some parts.1) hpart

/-- Spans that follow one another behind a text show the texts of their tokens. -/
theorem fragments_spansFrom (before : Text) (tokens : List Token) :
    (spansFrom before.byteLength tokens).map (fun span =>
        (⟨((before ++ tokens.flatMap Token.text).slice? span.start span.stop).getD [],
          span.style⟩ : Fragment)) =
      tokens.map Token.fragment := by
  induction tokens generalizing before with
  | nil => rfl
  | cons token tokens ih =>
    have hrest := ih (before ++ token.text)
    rw [Text.byteLength_append, List.append_assoc] at hrest
    rw [spansFrom, List.map_cons, List.map_cons, List.flatMap_cons, hrest, ← List.append_assoc,
      Text.slice?_append]
    rfl

/-- The fragments of a line are those of its tokens. -/
theorem fragments_scan (config : Config) (state : State) (text : Text) :
    (Line.scan config state text).fragments =
      (lineTokens config state text).map Token.fragment := by
  have h := fragments_spansFrom [] (lineTokens config state text)
  rwa [flatMap_text_lineTokens, List.nil_append] at h

/-- The lexemes of a line are those of its tokens. -/
theorem lexemes_scan (config : Config) (state : State) (text : Text) :
    (Line.scan config state text).lexemes = lexemesOf (lineTokens config state text) := by
  rw [Line.lexemes, fragments_scan]
  rfl

/-! ## Effects -/

namespace Lexeme

/-- A comment and an operator have no effect. -/
theorem effect_scanSlash (rest : Text) : (scanSlash rest).effect = none := by
  unfold scanSlash
  split <;> rfl

/-- What starts with a slash is a comment or an operator. -/
theorem style_scanSlash (rest : Text) :
    (scanSlash rest).style = some .comment ∨ (scanSlash rest).style = some .operator := by
  unfold scanSlash
  split
  · exact .inl rfl
  · exact .inl rfl
  · exact .inr rfl

/-- The effect of a word can be told from its text and its style. -/
theorem effect_scanWord (first : Char) (rest : Text) :
    (scanWord first rest).effect =
      Fragment.effect? ⟨(first :: rest).take (scanWord first rest).length,
        (scanWord first rest).style⟩ := by
  rw [scanWord_length]
  unfold scanWord
  simp only
  split
  · rfl
  · split <;> rfl

/-- The effect of a lexeme of code can be told from its text and its style. -/
theorem effect_scanCode (text : Text) :
    (scanCode text).effect =
      Fragment.effect? ⟨text.take (scanCode text).length, (scanCode text).style⟩ := by
  cases text with
  | nil => rfl
  | cons first rest =>
    rw [scanCode]
    split
    next => rfl
    next hopener =>
      simp [punctuation, Fragment.effect?, Fragment.bracketEffect?, hopener]
    next hopener hcloser =>
      simp [punctuation, Fragment.effect?, Fragment.bracketEffect?, hopener, hcloser]
    next hopener hcloser =>
      split
      · rfl
      · split
        · simp [punctuation, Fragment.effect?, Fragment.bracketEffect?, hopener, hcloser]
        · split
          · rw [effect_scanSlash]
            rcases style_scanSlash rest with h | h <;> rw [h] <;> rfl
          · split
            · rfl
            · exact effect_scanWord first rest

/-- **The effect of a lexeme is that of its fragment.** -/
theorem effect_scan (region : Region) (text : Text) :
    (scan region text).effect =
      Fragment.effect? ⟨text.take (scan region text).length, (scan region text).style⟩ := by
  cases region with
  | code => exact effect_scanCode text
  | string quote => rfl
  | comment => rfl

end Lexeme

/-! ## Brackets -/

/-- A delimiter is opened by its own character only. -/
theorem Delimiter.ofOpener?_eq_some_iff {c : Char} {delimiter : Delimiter} :
    ofOpener? c = some delimiter ↔ c = delimiter.opener := by
  constructor
  · intro h
    unfold ofOpener? at h
    split at h <;> cases h <;> rfl
  · rintro rfl
    exact ofOpener?_opener delimiter

/-- A delimiter is closed by its own character only. -/
theorem Delimiter.ofCloser?_eq_some_iff {c : Char} {delimiter : Delimiter} :
    ofCloser? c = some delimiter ↔ c = delimiter.closer := by
  constructor
  · intro h
    unfold ofCloser? at h
    split at h <;> cases h <;> rfl
  · rintro rfl
    exact ofCloser?_closer delimiter

namespace Fragment

variable {fragment : Fragment} {delimiter : Delimiter}

/-- Only a bracket opens or closes a context. -/
theorem bracketEffect?_text {effect : Effect} (h : fragment.effect? = some effect)
    (harm : effect ≠ .arm) : bracketEffect? fragment.text = some effect := by
  unfold effect? at h
  split at h
  next => exact h
  next =>
    split at h
    next =>
      cases h
      exact absurd rfl harm
    next => cases h
  next => cases h

/-- A text that opens or closes a context is one character. -/
theorem exists_char_of_bracketEffect? {text : Text} {effect : Effect}
    (h : bracketEffect? text = some effect) :
    ∃ c, text = [c] ∧ ((∃ delimiter, effect = .opening delimiter ∧
        Delimiter.ofOpener? c = some delimiter) ∨
      ∃ delimiter, effect = .closing delimiter ∧ Delimiter.ofCloser? c = some delimiter) := by
  unfold bracketEffect? at h
  split at h
  next c =>
    refine ⟨c, rfl, ?_⟩
    split at h
    next opened hopened =>
      cases h
      exact .inl ⟨opened, rfl, hopened⟩
    next =>
      obtain ⟨closed, hclosed, rfl⟩ := Option.map_eq_some_iff.1 h
      exact .inr ⟨closed, rfl, hclosed⟩
  next => cases h

/-- A fragment that opens a bracket is that bracket. -/
theorem text_of_opening (h : fragment.effect? = some (.opening delimiter)) :
    fragment.text = [delimiter.opener] := by
  obtain ⟨c, htext, ⟨_, heq, hopened⟩ | ⟨_, heq, -⟩⟩ :=
    exists_char_of_bracketEffect? (bracketEffect?_text h Effect.noConfusion)
  · cases heq
    rw [htext, Delimiter.ofOpener?_eq_some_iff.1 hopened]
  · cases heq

/-- A fragment that closes a bracket is that bracket. -/
theorem text_of_closing (h : fragment.effect? = some (.closing delimiter)) :
    fragment.text = [delimiter.closer] := by
  obtain ⟨c, htext, ⟨_, heq, -⟩ | ⟨_, heq, hclosed⟩⟩ :=
    exists_char_of_bracketEffect? (bracketEffect?_text h Effect.noConfusion)
  · cases heq
  · cases heq
    rw [htext, Delimiter.ofCloser?_eq_some_iff.1 hclosed]

/-- A run of blanks does nothing to the contexts. -/
theorem effect?_of_isBlank (hstyle : fragment.style = none)
    (h : fragment.isBlank = true) : fragment.effect? = none := by
  rw [effect?, hstyle]
  simp only
  cases hcase : bracketEffect? fragment.text with
  | none => rfl
  | some effect =>
    obtain ⟨c, htext, ⟨delimiter, -, hc⟩ | ⟨delimiter, -, hc⟩⟩ :=
      exists_char_of_bracketEffect? hcase
    · rw [isBlank, htext, Delimiter.ofOpener?_eq_some_iff.1 hc] at h
      cases delimiter <;> cases h
    · rw [isBlank, htext, Delimiter.ofCloser?_eq_some_iff.1 hc] at h
      cases delimiter <;> cases h

end Fragment

/-- A lexeme in code closes a bracket if its text starts with a closing one. -/
theorem Lexeme.effect_scanCode_eq_closing_iff {text : Text} {delimiter : Delimiter} :
    (scanCode text).effect = some (.closing delimiter) ↔ text.head? = some delimiter.closer := by
  cases text with
  | nil => simp [scanCode]
  | cons first rest =>
    constructor
    · intro h
      rw [effect_scanCode] at h
      have htext : (first :: rest).take (scanCode (first :: rest)).length = [delimiter.closer] :=
        Fragment.text_of_closing h
      obtain ⟨length, hlength⟩ := Nat.exists_eq_succ_of_ne_zero
        (Nat.ne_of_gt (scanCode_length_pos (List.cons_ne_nil first rest)))
      rw [hlength, List.take_succ_cons] at htext
      exact congrArg List.head? htext
    · intro h
      cases h
      cases delimiter <;> rfl

end SyntaxMode
