import SyntaxMode.Proofs.Lexeme.Longest
import SyntaxMode.Proofs.Offsets.Lexeme
import SyntaxMode.Proofs.Token.Lexing

/-!
# Numbers are longest matches

The grammar of numbers is a regular language, `Number.literal`. The reader looks for no longest
word of it: it takes the parts of a number one after the other, each as far as it goes, and takes
an optional part back if something is missing in it. That comes to the same, since no part of a
number begins with a character that the part before it consists of (`Number.longestMatch`). So a
number in a line is the longest one that stands there (`read_number_longest`).
-/

namespace SyntaxMode

namespace Lexeme.Number

open Grammar
open scoped Computability

/-! ## The grammar -/

/-- The class of the characters from one to another. -/
def between (first last : Char) (c : Char) : Bool := first ≤ c && c ≤ last

/-- The class `[-+]`. -/
def isSign (c : Char) : Bool := c == '-' || c == '+'

/-- The class `[eE]`. -/
def isExponentMark (c : Char) : Bool := c == 'e' || c == 'E'

/-- The class `[xX]`. -/
def isHexMark (c : Char) : Bool := c == 'x' || c == 'X'

/-- `[0-9]` -/
def digit : Language Char := oneOf (between '0' '9')

/-- `[0-9a-fA-F]` -/
def hexDigit : Language Char :=
  oneOf fun c => between '0' '9' c || between 'a' 'f' c || between 'A' 'F' c

/-- `[0-7]` -/
def octalDigit : Language Char := oneOf (between '0' '7')

/-- `[eE][-+]?[0-9]+` -/
def exponent : Language Char :=
  oneOf isExponentMark * (optional (oneOf isSign) * atLeastOne digit)

/-- `.[0-9]*` -/
def fraction : Language Char := oneOf (· == '.') * digit∗

/-- `[xX][0-9a-fA-F]+` -/
def hexPart : Language Char := oneOf isHexMark * atLeastOne hexDigit

/-- `.([0-9]+([eE][-+]?[0-9]+)?)?` -/
def pointFirst : Language Char :=
  oneOf (· == '.') * optional (atLeastOne digit * optional exponent)

/-- `0([xX][0-9a-fA-F]+|[0-7]*)` -/
def zeroFirst : Language Char := oneOf (· == '0') * (hexPart + octalDigit∗)

/-- `[1-9][0-9]*(.[0-9]*)?([eE][-+]?[0-9]+)?` -/
def digitFirst : Language Char :=
  oneOf (between '1' '9') * (digit∗ * (optional fraction * optional exponent))

/-- The language of numbers. -/
def literal : Language Char := pointFirst + zeroFirst + digitFirst

/-! ## The characters that start a number -/

/-- A number starts with a digit or a point. -/
theorem startsNumber_iff {c : Char} : startsNumber c = true ↔ c.isDigit = true ∨ c = '.' := by
  rw [startsNumber, Bool.or_eq_true, beq_iff_eq]

/-- The decimal digits have the code points 48 to 57. -/
theorem isDigit_iff {c : Char} : c.isDigit = true ↔ 48 ≤ c.toNat ∧ c.toNat ≤ 57 := by
  simp [Char.isDigit, UInt32.le_iff_toNat_le]

/-- A digit is a zero or another digit. -/
theorem eq_zero_or_between {c : Char} (h : c.isDigit = true) :
    c = '0' ∨ between '1' '9' c = true := by
  obtain ⟨hlower, hupper⟩ := isDigit_iff.1 h
  rw [or_iff_not_imp_left]
  intro hzero
  have hne : c.toNat ≠ 48 := fun heq => hzero (Char.toNat_inj.1 heq)
  have hone : 49 ≤ c.toNat := by omega
  simp only [between, Bool.and_eq_true, decide_eq_true_eq, Char.le_def, UInt32.le_iff_toNat_le]
  exact ⟨hone, hupper⟩

/-! ## The parts of a number

The reader's classes of digits are those of the grammar by definition, so that a run of the
reader's is a longest match of the grammar's.
-/

/-- No digit is a sign. -/
theorem avoids_isSign : Avoids isSign (atLeastOne digit) := by
  refine .oneOf_mul fun c hc => ?_
  rw [isSign, Bool.or_eq_false_iff, beq_eq_false_iff_ne, beq_eq_false_iff_ne]
  constructor <;> rintro rfl <;> cases hc

/-- No digit, and no point, begins an exponent. -/
theorem avoids_startsNumber : Avoids startsNumber (optional exponent) := by
  refine .optional (.oneOf_mul fun c hc => ?_)
  rw [isExponentMark, Bool.or_eq_true, beq_iff_eq, beq_iff_eq] at hc
  rcases hc with rfl | rfl <;> rfl

/-- No digit begins a fraction, or an exponent where there is none. -/
theorem avoids_isDigit : Avoids Char.isDigit (optional fraction * optional exponent) := by
  refine .mul (.optional (.oneOf_mul fun c hc => ?_)) ?_
  · rw [beq_iff_eq.1 hc]
    rfl
  · exact fun word hword c hc => (Bool.or_eq_false_iff.1 (avoids_startsNumber word hword c hc)).1

/-- Digits, and a point before them, can start a number. -/
theorem within_startsNumber :
    Within startsNumber (atLeastOne digit) ∧ Within startsNumber (optional fraction) := by
  have hdigit : ∀ c, between '0' '9' c = true → startsNumber c = true :=
    fun c hc => Bool.or_eq_true_iff.2 (.inl hc)
  have hpoint : ∀ c, (c == '.') = true → startsNumber c = true :=
    fun c hc => Bool.or_eq_true_iff.2 (.inr hc)
  exact ⟨.mul (.oneOf hdigit) (.star hdigit), .optional (.mul (.oneOf hpoint) (.star hdigit))⟩

/-- A sign is taken if it is there. -/
theorem longestMatch_sign (text : Text) :
    LongestMatch (optional (oneOf isSign)) text (signLength text) := by
  rw [← mul_one (oneOf isSign)]
  cases text with
  | nil => exact NoMatch.optional (.oneOf_mul (by simp))
  | cons c rest =>
    rw [signLength]
    split
    next hc => exact ((LongestMatch.one rest).cons hc).optional
    next hc => exact NoMatch.optional (.oneOf_mul (by simpa [isSign] using hc))

/-- An exponent is taken if it is there, with all of its digits. -/
theorem longestMatch_exponent (text : Text) :
    LongestMatch (optional exponent) text (exponentLength text) := by
  cases text with
  | nil => exact NoMatch.optional (.oneOf_mul (by simp))
  | cons c rest =>
    have hsign := longestMatch_sign rest
    have hwithin : Within isSign (optional (oneOf isSign)) := .optional (.oneOf fun _ hc => hc)
    simp only [exponentLength]
    split
    next h =>
      rw [Bool.and_eq_true, bne_iff_ne] at h
      have hmark : isExponentMark c = true := h.1
      have hexponent := (hsign.mul (.atLeastOne h.2) hwithin avoids_isSign).cons hmark
      rw [Nat.add_assoc, Nat.add_comm]
      exact hexponent.optional
    next h =>
      rw [Bool.and_eq_true, bne_iff_ne, not_and, not_not] at h
      refine NoMatch.optional ?_
      by_cases hmark : isExponentMark c = true
      · exact .cons (.mul hsign (.atLeastOne (h hmark)) hwithin avoids_isSign)
      · exact .oneOf_mul (by simpa using hmark)

/-- A fraction is taken if it is there, with all of its digits. -/
theorem longestMatch_fraction (text : Text) :
    LongestMatch (optional fraction) text (fractionLength text) := by
  cases text with
  | nil => exact NoMatch.optional (.oneOf_mul (by simp))
  | cons c rest =>
    rw [fractionLength]
    split
    next hc =>
      have hfraction : LongestMatch fraction (c :: rest) (Text.runLength Char.isDigit rest + 1) :=
        (LongestMatch.star Char.isDigit rest).cons hc
      rw [Nat.add_comm]
      exact hfraction.optional
    next hc => exact NoMatch.optional (.oneOf_mul (by simpa using hc))

/-- Where the length of a hexadecimal part is 0, there is none. -/
theorem noMatch_hexPart {text : Text} (h : hexLength text = 0) : NoMatch hexPart text := by
  cases text with
  | nil => exact .oneOf_mul (by simp)
  | cons c rest =>
    simp only [hexLength] at h
    split at h
    · omega
    next hpart =>
      rw [Bool.and_eq_true, bne_iff_ne, not_and, not_not] at hpart
      by_cases hmark : isHexMark c = true
      · exact .cons (.atLeastOne (hpart hmark))
      · exact .oneOf_mul (by simpa using hmark)

/-- Where there is a hexadecimal part, there is no octal digit. -/
theorem longestMatch_hexPart {text : Text} (h : hexLength text ≠ 0) :
    LongestMatch hexPart text (hexLength text) ∧ text.runLength isOctalDigit = 0 := by
  cases text with
  | nil => exact absurd rfl h
  | cons c rest =>
    simp only [hexLength] at h ⊢
    split at h
    next hpart =>
      rw [if_pos hpart, Nat.add_comm]
      rw [Bool.and_eq_true, bne_iff_ne] at hpart
      have hmark : isHexMark c = true := hpart.1
      refine ⟨(LongestMatch.atLeastOne hpart.2).cons hmark, ?_⟩
      rw [Text.runLength_eq_zero_iff]
      rintro _ ⟨⟩
      rw [isHexMark, Bool.or_eq_true, beq_iff_eq, beq_iff_eq] at hmark
      rcases hmark with rfl | rfl <;> rfl
    · exact absurd rfl h

/-! ## What follows the first character -/

/-- What follows a point that starts a number is taken as far as it goes. -/
theorem longestMatch_afterPoint (text : Text) :
    LongestMatch (optional (atLeastOne digit * optional exponent)) text (afterPoint text) := by
  rw [afterPoint]
  split
  next hzero => exact NoMatch.optional (.mul_left (.atLeastOne hzero))
  next hne =>
    have hdigits : LongestMatch (atLeastOne digit) text (text.runLength Char.isDigit) :=
      .atLeastOne hne
    exact (hdigits.mul (longestMatch_exponent _) within_startsNumber.1
      avoids_startsNumber).optional

/-- What follows a zero that starts a number is taken as far as it goes. -/
theorem longestMatch_afterZero (text : Text) :
    LongestMatch (hexPart + octalDigit∗) text (afterZero text) := by
  have hoctal := LongestMatch.star isOctalDigit text
  rw [afterZero]
  split
  next hzero => exact .add_right (noMatch_hexPart hzero) hoctal
  next hne =>
    obtain ⟨hhex, hnone⟩ := longestMatch_hexPart hne
    rw [hnone] at hoctal
    exact hhex.add hoctal (Nat.zero_le _)

/-- What follows another digit that starts a number is taken as far as it goes. -/
theorem longestMatch_afterDigit (text : Text) :
    LongestMatch (digit∗ * (optional fraction * optional exponent)) text (afterDigit text) := by
  have hdigits : LongestMatch digit∗ text (text.runLength Char.isDigit) :=
    .star Char.isDigit text
  have hfraction := longestMatch_fraction (text.drop (text.runLength Char.isDigit))
  have hparts := hfraction.mul (longestMatch_exponent _) within_startsNumber.2 avoids_startsNumber
  have hnumber := hdigits.mul hparts (.star fun _ hc => hc) avoids_isDigit
  rwa [List.drop_drop, ← Nat.add_assoc] at hnumber

/-- **The parts of a number make up the longest number.** -/
theorem longestMatch {first : Char} (h : startsNumber first = true) (rest : Text) :
    LongestMatch literal (first :: rest) (lengthAfter first rest + 1) := by
  have hnone {accepts : Char → Bool} {language : Language Char} (hfirst : accepts first = false) :
      NoMatch (oneOf accepts * language) (first :: rest) := by
    refine .oneOf_mul ?_
    rintro _ ⟨⟩
    exact hfirst
  rw [lengthAfter]
  rcases startsNumber_iff.1 h with hdigit | rfl
  · rcases eq_zero_or_between hdigit with rfl | hdigit
    · exact .add_left (.add_right (hnone rfl) ((longestMatch_afterZero rest).cons rfl)) (hnone rfl)
    have hother {c : Char} (hc : between '1' '9' c = false) : (first == c) = false := by
      rw [beq_eq_false_iff_ne]
      rintro rfl
      exact Bool.false_ne_true (hc.symm.trans hdigit)
    have hpoint : (first == '.') = false := hother rfl
    have hzero : (first == '0') = false := hother rfl
    rw [hpoint, hzero]
    exact .add_right (.add (hnone hpoint) (hnone hzero))
      ((longestMatch_afterDigit rest).cons hdigit)
  · exact (((longestMatch_afterPoint rest).cons rfl).add_left (hnone rfl)).add_left (hnone rfl)

/-- Each number starts with a character that can start a number. -/
theorem exists_eq_cons_of_mem_literal {word : Text} (h : word ∈ literal) :
    ∃ first rest, word = first :: rest ∧ startsNumber first = true := by
  rcases h with (h | h) | h <;>
    obtain ⟨_, ⟨first, hfirst, rfl⟩, rest, -, rfl⟩ := Language.mem_mul.1 h <;>
    refine ⟨first, rest, rfl, ?_⟩
  · exact Bool.or_eq_true_iff.2 (.inr hfirst)
  · rw [beq_iff_eq.1 hfirst]
    rfl
  · rw [between, Bool.and_eq_true, decide_eq_true_eq, decide_eq_true_eq] at hfirst
    have hdigit : between '0' '9' first = true := by
      rw [between, Bool.and_eq_true, decide_eq_true_eq, decide_eq_true_eq]
      exact ⟨Char.le_trans (by decide) hfirst.1, hfirst.2⟩
    exact Bool.or_eq_true_iff.2 (.inl hdigit)

end Lexeme.Number

/-! ## Reading a number -/

open Lexeme Number

/-- A character that starts a number is no quote and no bracket. -/
theorem Lexeme.scanCode_of_startsNumber {first : Char} (h : startsNumber first = true)
    (rest : Text) :
    scanCode (first :: rest) = colored .number (lengthAfter first rest + 1) := by
  have hquote : Quote.ofChar? first = none := by
    unfold Quote.ofChar?
    split <;> first | rfl | cases h
  have hopener : Delimiter.ofOpener? first = none := by
    unfold Delimiter.ofOpener?
    split <;> first | rfl | cases h
  have hcloser : Delimiter.ofCloser? first = none := by
    unfold Delimiter.ofCloser?
    split <;> first | rfl | cases h
  rw [scanCode, hquote, hopener, hcloser]
  exact if_pos h

/-- A character that starts a number is no blank. -/
theorem isBlank_of_startsNumber {c : Char} (h : startsNumber c = true) : isBlank c = false := by
  have hrange : 46 ≤ c.toNat ∧ c.toNat ≤ 57 := by
    rcases startsNumber_iff.1 h with hdigit | rfl
    · have hbounds := isDigit_iff.1 hdigit
      omega
    · decide
  simp only [isBlank, CodeRanges.contains, whiteSpace, List.any_cons, List.any_nil, Bool.or_false,
    Bool.or_eq_false_iff, Bool.and_eq_false_imp, decide_eq_true_eq, decide_eq_false_iff_not]
  omega

/-- In code a token that starts like a number is one. -/
theorem Token.read_of_startsNumber (config : Config) {cursor : Cursor} {state : State}
    {first : Char} {rest : Text} (hregion : state.region = .code)
    (hahead : cursor.ahead = first :: rest) (h : startsNumber first = true) :
    (read config cursor state).text = cursor.ahead.take (lengthAfter first rest + 1) ∧
      (read config cursor state).style = some .number ∧
      (read config cursor state).cursor = cursor.begin.forward (lengthAfter first rest + 1) := by
  have hblank : cursor.ahead.blankRun = 0 := by
    rw [hahead, Text.blankRun, Text.runLength_eq_zero_iff]
    rintro _ ⟨⟩
    exact isBlank_of_startsNumber h
  rw [read_of_blankRun_eq_zero config state hblank, hregion, hahead]
  simp [scan, scanCode_of_startsNumber h, colored]

/-- A line that is a number is read as one token. -/
theorem tokens_of_mem_literal (config : Config) {state : State} {line : Text}
    (hregion : state.region = .code) (hline : line ∈ literal) :
    lineTokens config state line = [Token.read config (Cursor.ofLine line) state] ∧
      (Token.read config (Cursor.ofLine line) state).text = line ∧
      (Token.read config (Cursor.ofLine line) state).style = some .number := by
  obtain ⟨first, rest, hcons, h⟩ := exists_eq_cons_of_mem_literal hline
  have hahead : (Cursor.ofLine line).ahead = first :: rest := hcons
  obtain ⟨htext, hstyle, hcursor⟩ := Token.read_of_startsNumber config hregion hahead h
  have hlongest := longestMatch h rest
  rw [← hcons] at hlongest
  have hlength : lengthAfter first rest + 1 = line.length :=
    hlongest.le.antisymm (hlongest.longest line hline (List.prefix_refl line))
  rw [hlength] at htext hcursor
  refine ⟨?_, htext.trans List.take_length, hstyle⟩
  have hne : (Cursor.ofLine line).ahead ≠ [] := by
    rw [hahead]
    exact List.cons_ne_nil _ _
  have hend : (Token.read config (Cursor.ofLine line) state).cursor.ahead = [] := by
    rw [hcursor]
    exact List.drop_length
  rw [lineTokens, tokens_of_ahead_ne_nil config state hne, tokens_of_ahead_eq_nil config _ hend]

/-- **A number is the longest one that stands in the line.** Where a token in code starts with a
digit or a point, it is a number, and no longer word of the language of numbers stands there. It is
what the reader passes by byte offsets. So a line that is a word of the language is one number. -/
theorem read_number_longest (config : Config) :
    (∀ {cursor : Cursor} {state : State} {first : Char} {rest : Text}, state.region = .code →
      cursor.ahead = first :: rest → first.isDigit = true ∨ first = '.' →
        let token := Token.read config cursor state
        token.style = some .number ∧ token.text ∈ literal ∧ token.text <+: cursor.ahead ∧
          (∀ word ∈ literal, word <+: cursor.ahead → word.length ≤ token.text.length) ∧
          Offsets.Runs (Offsets.number first) (cursor.begin.forward 1) () token.cursor) ∧
      ∀ (state : State) (line : Text), state.region = .code → line ∈ literal →
        (highlight config state line).1 = [⟨0, line.byteLength, some .number⟩] := by
  constructor
  · intro cursor state first rest hregion hahead hfirst token
    have h : startsNumber first = true := startsNumber_iff.2 hfirst
    obtain ⟨htext, hstyle, hcursor⟩ := Token.read_of_startsNumber config hregion hahead h
    have hlongest := longestMatch h rest
    rw [← hahead] at hlongest
    have hlength : token.text.length = lengthAfter first rest + 1 := by
      rw [htext, List.length_take, Nat.min_eq_left hlongest.le]
    refine ⟨hstyle, ?_, ?_, ?_, ?_⟩
    · rw [htext]
      exact hlongest.mem
    · rw [htext]
      exact List.take_prefix _ _
    · rw [hlength]
      exact hlongest.longest
    · have hnumber := Offsets.runs_number (cursor.begin.forward 1) first
      rwa [Cursor.ahead_forward_begin_of_cons hahead 0, List.drop_zero, Cursor.forward_forward,
        Nat.add_comm 1, ← hcursor] at hnumber
  · intro state line hregion hline
    obtain ⟨htokens, htext, hstyle⟩ := tokens_of_mem_literal config hregion hline
    simp [highlight, htokens, spansFrom, htext, hstyle]

/-- The theorem for a number before an exponent that has no digits, and for a line that is a
hexadecimal number. -/
theorem read_number_longest_dangling :
    let cursor : Cursor := .ofLine "1.5e+x".toList
    let token := Token.read {} cursor (State.initial {})
    token.style = some .number ∧ token.text = "1.5".toList ∧ token.text ∈ literal ∧
      (∀ word ∈ literal, word <+: cursor.ahead → word.length ≤ 3) ∧
      "0x1F".toList ∈ literal ∧
      (highlight {} (State.initial {}) "0x1F".toList).1 = [⟨0, 4, some .number⟩] := by
  intro cursor token
  have hahead : cursor.ahead = '1' :: ".5e+x".toList := rfl
  have htext : token.text = "1.5".toList := rfl
  have hhex : "0x1F".toList ∈ literal :=
    (longestMatch (show startsNumber '0' = true from rfl) "x1F".toList).mem
  obtain ⟨hstyle, hmem, -, hlongest, -⟩ :=
    (read_number_longest {}).1 (show (State.initial {}).region = .code from rfl) hahead (.inl rfl)
  have hlength : (Token.read {} cursor (State.initial {})).text.length = 3 := rfl
  rw [hlength] at hlongest
  exact ⟨hstyle, htext, hmem, hlongest, hhex, (read_number_longest {}).2 _ _ rfl hhex⟩

end SyntaxMode
