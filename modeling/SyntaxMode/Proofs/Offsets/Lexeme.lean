import SyntaxMode.Proofs.Offsets.Basic

/-!
# Lexemes by byte offsets

The reader of lexemes as a program on byte offsets: it looks at single characters, searches strings
and comments by bytes, and slices the line to look words up. Started at the offsets of a cursor
with any text ahead, in any region, it reads the lexeme that `Lexeme.scan` describes, so no slice
of it fails and all its loops end (`runs_scan`).
-/

namespace SyntaxMode

/-- What a lexeme is, its length apart. -/
structure Offsets.Scanned where
  style : Option Style
  effect : Option Effect
  region : Region

/-- What a lexeme is, its length apart. -/
def Lexeme.scanned (lexeme : Lexeme) : Offsets.Scanned :=
  ⟨lexeme.style, lexeme.effect, lexeme.region⟩

namespace Offsets

open Lexeme

/-! ## Programs -/

/-- Passes an exponent if there is one, and tells whether there was. -/
def exponentDigits : Program Bool := do
  if (← passIf fun c => c == 'e' || c == 'E').isSome then
    discard <| passIf fun c => c == '-' || c == '+'
    passWhile Char.isDigit
  else return false

/-- Passes an exponent or nothing. -/
def exponent : Program Unit := do
  discard <| attempt exponentDigits

/-- Passes the hexadecimal part of a number if there is one, and tells whether there was. -/
def hexDigits : Program Bool := do
  if (← passIf fun c => c == 'x' || c == 'X').isSome then passWhile Number.isHexDigit
  else return false

/-- Passes a fraction or nothing. -/
def fraction : Program Unit := do
  if ← expect '.' then discard <| passWhile Char.isDigit

/-- Passes what belongs to a number after its first character. -/
def number (first : Char) : Program Unit := do
  if first == '.' then
    if ← passWhile Char.isDigit then exponent
  else if first == '0' then
    if ← attempt hexDigits then return
    else discard <| passWhile Number.isOctalDigit
  else
    discard <| passWhile Char.isDigit
    fraction
    exponent

/-- Passes a mark behind a word if the two together are in a table of words. -/
def passMark : Program Unit := do
  match ← peek with
  | some mark =>
    if mark == '!' || mark == '?' then
      let offsets ← get
      let marked ← slice offsets.lexemeStart (offsets.position + 1)
      if Word.isKeyword marked || Word.isAtom marked then discard next
  | none => return

/-- Passes the rest of a word and looks the word up. -/
def word : Program Scanned := do
  discard <| passWhile Word.continues
  passMark
  let word ← current
  if Word.isKeyword word then
    return ⟨some .keyword, if Word.opensArm word then some .arm else none, .code⟩
  else if Word.isAtom word then return ⟨some .atom, none, .code⟩
  else return ⟨some .variable, none, .code⟩

/-- Passes the rest of a string in at most a number of rounds, and answers the region behind it. -/
def stringWithin (quote : Quote) : Nat → Program Region
  | 0 => failure
  | rounds + 1 => do
    match ← seek fun byte =>
        byte == quote.char.toUInt8 || (!quote.isRaw && byte == '\\'.toUInt8) with
    | some byte =>
      if byte == '\\'.toUInt8 then
        discard next
        discard next
        stringWithin quote rounds
      else
        discard next
        return .code
    | none => return .string quote

/-- Passes the rest of a string, and answers the region behind it. -/
def string (quote : Quote) : Program Region := do
  stringWithin quote (← rounds)

/-- Passes the rest of a block comment in at most a number of rounds, and answers the region behind
it. -/
def commentWithin : Nat → Program Region
  | 0 => failure
  | rounds + 1 => do
    match ← seek (· == '*'.toUInt8) with
    | some _ =>
      discard next
      if ← expect '/' then return .code else commentWithin rounds
    | none => return .comment

/-- Passes the rest of a block comment, and answers the region behind it. -/
def comment : Program Region := do
  commentWithin (← rounds)

/-- Passes what follows a slash that starts a lexeme. -/
def slash : Program Scanned := do
  if ← expect '*' then return ⟨some .comment, none, ← comment⟩
  else if ← expect '/' then
    toEnd
    return ⟨some .comment, none, .code⟩
  else
    discard <| passWhile isOperatorSign
    return ⟨some .operator, none, .code⟩

/-- Passes a lexeme in code. -/
def code : Program Scanned := do
  match ← next with
  | none => return ⟨none, none, .code⟩
  | some first =>
    match Quote.ofChar? first, Delimiter.ofOpener? first, Delimiter.ofCloser? first with
    | some quote, _, _ => return ⟨some .string, none, ← string quote⟩
    | none, some delimiter, _ => return ⟨none, some (.opening delimiter), .code⟩
    | none, none, some delimiter => return ⟨none, some (.closing delimiter), .code⟩
    | none, none, none =>
      if Number.startsNumber first then
        number first
        return ⟨some .number, none, .code⟩
      else if isSeparator first then return ⟨none, none, .code⟩
      else if first == '/' then slash
      else if isOperatorSign first then
        discard <| passWhile isOperatorSign
        return ⟨some .operator, none, .code⟩
      else word

/-- Passes a lexeme in a region. -/
def scan (region : Region) : Program Scanned :=
  match region with
  | .code => code
  | .string quote => do return ⟨some .string, none, ← string quote⟩
  | .comment => do return ⟨some .comment, none, ← comment⟩

/-! ## Numbers -/

section
variable (cursor : Cursor) {accepts : Char → Bool}

/-- An optional sign. -/
theorem runs_sign : ∃ answer, Runs (passIf fun c => c == '-' || c == '+') cursor answer
    (cursor.forward (Number.signLength cursor.ahead)) := by
  cases hahead : cursor.ahead with
  | nil => exact ⟨none, runs_passIf_of_neg (by simp [hahead])⟩
  | cons c after =>
    rw [Number.signLength]
    cases hc : c == '-' || c == '+' with
    | true => exact ⟨some c, runs_passIf_of_pos hahead hc⟩
    | false => exact ⟨none, runs_passIf_of_neg (by simpa [hahead] using hc)⟩

/-- An exponent is passed if it is there, and otherwise the place stays. -/
theorem runs_exponent :
    Runs exponent cursor () (cursor.forward (Number.exponentLength cursor.ahead)) := by
  suffices h : ∃ answer, Runs (attempt exponentDigits) cursor answer
      (cursor.forward (Number.exponentLength cursor.ahead)) by
    obtain ⟨answer, hanswer⟩ := h
    exact hanswer.discard
  cases hahead : cursor.ahead with
  | nil =>
    refine ⟨false, runs_attempt_of_false 0 ?_⟩
    exact .bind (runs_passIf_of_neg (by simp [hahead])) (.pure _ _)
  | cons c after =>
    rw [Number.exponentLength]
    cases hc : c == 'e' || c == 'E' with
    | false =>
      refine ⟨false, runs_attempt_of_false 0 ?_⟩
      exact .bind (runs_passIf_of_neg (by simpa [hahead] using hc)) (.pure _ _)
    | true =>
      have hafter : (cursor.forward 1).ahead = after := Cursor.ahead_forward_of_cons hahead 0
      obtain ⟨sign, hsign⟩ := runs_sign (cursor.forward 1)
      rw [hafter, Cursor.forward_forward] at hsign
      have hdigits := runs_passWhile (cursor.forward (1 + Number.signLength after)) Char.isDigit
      rw [Cursor.passWhile, Cursor.ahead_forward_of_cons hahead, Cursor.forward_forward] at hdigits
      have hrun : Runs exponentDigits cursor _ _ :=
        .bind (runs_passIf_of_pos hahead hc) (.bind hsign.discard hdigits)
      cases hnone : Text.runLength Char.isDigit (after.drop (Number.signLength after)) != 0 with
      | true =>
        rw [hnone] at hrun
        exact ⟨true, runs_attempt_of_true hrun⟩
      | false =>
        rw [hnone] at hrun
        exact ⟨false, runs_attempt_of_false _ hrun⟩

/-- The hexadecimal part of a number is passed as a whole or not at all. -/
theorem runs_hex :
    Runs (attempt hexDigits) cursor (Number.hexLength cursor.ahead != 0)
      (cursor.forward (Number.hexLength cursor.ahead)) := by
  cases hahead : cursor.ahead with
  | nil =>
    refine runs_attempt_of_false 0 ?_
    exact .bind (runs_passIf_of_neg (by simp [hahead])) (.pure _ _)
  | cons c after =>
    rw [Number.hexLength]
    cases hc : c == 'x' || c == 'X' with
    | false =>
      refine runs_attempt_of_false 0 ?_
      exact .bind (runs_passIf_of_neg (by simpa [hahead] using hc)) (.pure _ _)
    | true =>
      have hdigits := runs_passWhile (cursor.forward 1) Number.isHexDigit
      rw [Cursor.passWhile, Cursor.ahead_forward_of_cons hahead 0, Cursor.forward_forward,
        List.drop_zero] at hdigits
      have hrun : Runs hexDigits cursor _ _ := .bind (runs_passIf_of_pos hahead hc) hdigits
      cases hnone : Text.runLength Number.isHexDigit after != 0 with
      | true =>
        rw [hnone] at hrun
        simp only [Bool.and_true, if_true]
        rw [show (1 + Text.runLength Number.isHexDigit after != 0) = true by simp]
        exact runs_attempt_of_true hrun
      | false =>
        rw [hnone] at hrun
        exact runs_attempt_of_false _ hrun

/-- A fraction is passed if it is there, and otherwise the place stays. -/
theorem runs_fraction :
    Runs fraction cursor () (cursor.forward (Number.fractionLength cursor.ahead)) := by
  cases hahead : cursor.ahead with
  | nil => exact .bind (runs_expect_of_neg (by simp [hahead])) (.pure _ _)
  | cons c after =>
    rw [Number.fractionLength]
    cases hc : c == '.' with
    | false =>
      have hhead : cursor.ahead.head? ≠ some '.' := by simpa [hahead] using hc
      exact .bind (runs_expect_of_neg hhead) (.pure _ _)
    | true =>
      obtain rfl : c = '.' := beq_iff_eq.1 hc
      have hdigits := runs_passWhile (cursor.forward 1) Char.isDigit
      rw [Cursor.passWhile, Cursor.ahead_forward_of_cons hahead 0, Cursor.forward_forward,
        List.drop_zero] at hdigits
      exact .bind (runs_expect_of_pos hahead) hdigits.discard

/-- A number is passed as far as it goes. -/
theorem runs_number (first : Char) :
    Runs (number first) cursor () (cursor.forward (Number.lengthAfter first cursor.ahead)) := by
  have hrun (accepts : Char → Bool) := runs_passWhile cursor accepts
  simp only [Cursor.passWhile] at hrun
  rw [number, Number.lengthAfter]
  split
  · rw [Number.afterPoint]
    have hdigits := hrun Char.isDigit
    split
    next hzero =>
      rw [hzero] at hdigits
      exact .bind hdigits (.pure _ _)
    next digits hdigitsNe =>
      have hexponent := runs_exponent (cursor.forward (cursor.ahead.runLength Char.isDigit))
      rw [Cursor.forward_forward, Cursor.ahead_forward] at hexponent
      refine .bind hdigits ?_
      rw [if_pos (bne_iff_ne.2 hdigitsNe)]
      exact hexponent
  · split
    · rw [Number.afterZero]
      have hhex := runs_hex cursor
      split
      next hzero =>
        rw [hzero] at hhex
        exact .bind hhex (hrun Number.isOctalDigit).discard
      next hex hhexNe =>
        refine .bind hhex ?_
        rw [if_pos (bne_iff_ne.2 hhexNe)]
        exact .pure _ _
    · have hfraction := runs_fraction (cursor.forward (cursor.ahead.runLength Char.isDigit))
      have hexponent := runs_exponent (cursor.forward (cursor.ahead.runLength Char.isDigit +
        Number.fractionLength (cursor.ahead.drop (cursor.ahead.runLength Char.isDigit))))
      rw [Cursor.forward_forward, Cursor.ahead_forward] at hfraction hexponent
      exact .bind (hrun Char.isDigit).discard (.bind hfraction hexponent)

end

/-! ## Strings and comments -/

section
variable {quote : Quote} {pre after : Text}

/-- The characters at which the search through a string stops. -/
def stopsString (quote : Quote) (c : Char) : Bool :=
  c == quote.char || (!quote.isRaw && c == '\\')

/-- The search through a string stops where it meets one of these characters. -/
theorem isByte_stopsString (quote : Quote) :
    Text.isByte (fun byte =>
        byte == quote.char.toUInt8 || (!quote.isRaw && byte == '\\'.toUInt8)) =
      stopsString quote := by
  funext c
  have hquote : quote.char.toNat < 128 := by cases quote <;> decide
  rw [Text.isByte_or, Text.isByte_and, Text.isByte_beq hquote, Text.isByte_beq (by decide)]
  rfl

/-- A string goes on over characters at which the search does not stop. -/
theorem stringRest_append (h : ∀ c ∈ pre, stopsString quote c = false) (after : Text) :
    stringRest quote false (pre ++ after) =
      (pre.length + (stringRest quote false after).1, (stringRest quote false after).2) := by
  induction pre with
  | nil => simp
  | cons c pre ih =>
    have hc : (c == quote.char || (!quote.isRaw && c == '\\')) = false := h c List.mem_cons_self
    rw [Bool.or_eq_false_iff] at hc
    have hescaped : (!false && c == '\\' && !quote.isRaw) = false := by
      rw [Bool.not_false, Bool.true_and, Bool.and_comm]
      exact hc.2
    rw [List.cons_append, stringRest, hescaped, ih fun c hmem => h c (List.mem_cons_of_mem _ hmem)]
    simp [hc.1, Nat.add_right_comm]

/-- A string ends behind its quote. -/
theorem stringRest_closing (quote : Quote) (after : Text) :
    stringRest quote false (quote.char :: after) = (1, .code) := by
  simp [stringRest]

/-- A backslash is passed together with the character behind it. -/
theorem stringRest_escaped (hraw : quote.isRaw = false) (c : Char) (after : Text) :
    stringRest quote false ('\\' :: c :: after) =
      (1 + 1 + (stringRest quote false after).1, (stringRest quote false after).2) := by
  have hbackslash : ('\\' == quote.char) = false := by cases quote <;> rfl
  simp [stringRest, hbackslash, hraw]
  omega

/-- A backslash at the end of a line leaves the string open. -/
theorem stringRest_backslash (quote : Quote) :
    stringRest quote false ['\\'] = (1, .string quote) := by
  have hbackslash : ('\\' == quote.char) = false := by cases quote <;> rfl
  simp [stringRest, hbackslash]

/-- A string ends, or goes on to the end of the line, where the search through it ends. -/
theorem runs_stringWithin (quote : Quote) (cursor : Cursor) {rounds : Nat}
    (h : cursor.ahead.length < rounds) :
    Runs (stringWithin quote rounds) cursor (stringRest quote false cursor.ahead).2
      (cursor.forward (stringRest quote false cursor.ahead).1) := by
  have hascii : ∀ byte : UInt8, (byte == quote.char.toUInt8 ||
      (!quote.isRaw && byte == '\\'.toUInt8)) = true → byte.toNat < 128 := by
    intro byte hbyte
    rw [Bool.or_eq_true, Bool.and_eq_true, beq_iff_eq, beq_iff_eq] at hbyte
    rcases hbyte with rfl | ⟨-, rfl⟩
    · cases quote <;> decide
    · decide
  -- Each round but the last one passes a backslash at least.
  induction rounds generalizing cursor with
  | zero => exact absurd h (Nat.not_lt_zero _)
  | succ rounds ih =>
    obtain ⟨run, rest, hahead, hrun, hstops, hbehind, hseek⟩ :=
      exists_runs_seek cursor hascii (isByte_stopsString quote)
    rw [hahead, stringRest_append hrun]
    refine .bind hseek ?_
    rw [hahead, List.length_append] at h
    cases rest with
    | nil => exact .pure _ _
    | cons c after =>
      have hafter : (cursor.forward (run.length + 1)).ahead = after := by
        rw [← Cursor.forward_forward, Cursor.ahead_forward, hbehind]
        rfl
      have hnext := runs_discard_next (cursor.forward run.length)
      have hnext' := runs_discard_next (cursor.forward (run.length + 1))
      rw [Cursor.forward_forward] at hnext
      rw [List.length_cons] at h
      by_cases hc : c = '\\'
      · subst hc
        cases after with
        | nil =>
          have hstring := ih (cursor.forward (run.length + 1)) (by rw [hafter]; omega)
          rw [Cursor.forward_of_ahead_eq_nil hafter] at hnext'
          rw [hafter, stringRest] at hstring
          rw [stringRest_backslash]
          exact .bind hnext (.bind hnext' hstring)
        | cons d after =>
          have hraw : quote.isRaw = false := by
            have hbackslash : ('\\' == quote.char) = false := by cases quote <;> rfl
            simpa [stopsString, hbackslash] using hstops '\\' rfl
          have hdrop : (cursor.forward (run.length + 1 + 1)).ahead = after := by
            rw [← Cursor.forward_forward, Cursor.ahead_forward, hafter]
            rfl
          rw [List.length_cons] at h
          have hstring := ih (cursor.forward (run.length + 1 + 1)) (by rw [hdrop]; omega)
          rw [Cursor.forward_forward] at hnext'
          rw [hdrop, Cursor.forward_forward] at hstring
          rw [stringRest_escaped hraw, ← Nat.add_assoc, ← Nat.add_assoc]
          exact .bind hnext (.bind hnext' hstring)
      · obtain rfl : c = quote.char := by simpa [stopsString, hc] using hstops c rfl
        have hbyte : (quote.char.toUInt8 == '\\'.toUInt8) = false := by cases quote <;> rfl
        rw [stringRest_closing]
        simp only [List.head?_cons, Option.map_some, hbyte]
        exact .bind hnext (.pure _ _)

/-- The search through a string by bytes passes what is left of it. -/
theorem runs_string (quote : Quote) (cursor : Cursor) :
    Runs (string quote) cursor (stringRest quote false cursor.ahead).2
      (cursor.forward (stringRest quote false cursor.ahead).1) := by
  obtain ⟨count, hcount, hrounds⟩ := runs_rounds cursor
  exact .bind hrounds (runs_stringWithin quote cursor hcount)

/-- A comment goes on over characters that are no asterisk. -/
theorem commentRest_append (h : ∀ c ∈ pre, (c == '*') = false) (after : Text) :
    commentRest (pre ++ after) =
      (pre.length + (commentRest after).1, (commentRest after).2) := by
  induction pre with
  | nil => simp
  | cons c pre ih =>
    have hc : c ≠ '*' := by simpa using h c List.mem_cons_self
    rw [List.cons_append, commentRest, ih fun c hmem => h c (List.mem_cons_of_mem _ hmem)]
    · simp [Nat.add_right_comm]
    · rintro after rfl
      exact absurd rfl hc

/-- A comment ends, or goes on to the end of the line, where the search through it ends. -/
theorem runs_commentWithin (cursor : Cursor) {rounds : Nat}
    (h : cursor.ahead.length < rounds) :
    Runs (commentWithin rounds) cursor (commentRest cursor.ahead).2
      (cursor.forward (commentRest cursor.ahead).1) := by
  have hascii : ∀ byte : UInt8, (byte == '*'.toUInt8) = true → byte.toNat < 128 := by
    intro byte hbyte
    rw [beq_iff_eq.1 hbyte]
    decide
  have hbyte : Text.isByte (· == '*'.toUInt8) = (· == '*') :=
    funext (Text.isByte_beq (by decide))
  -- Each round but the last one passes an asterisk at least.
  induction rounds generalizing cursor with
  | zero => exact absurd h (Nat.not_lt_zero _)
  | succ rounds ih =>
    obtain ⟨run, rest, hahead, hrun, hstops, hbehind, hseek⟩ :=
      exists_runs_seek cursor hascii hbyte
    rw [hahead, commentRest_append hrun]
    refine .bind hseek ?_
    rw [hahead, List.length_append] at h
    cases rest with
    | nil => exact .pure _ _
    | cons c after =>
      obtain rfl : c = '*' := beq_iff_eq.1 (hstops c rfl)
      have hafter : (cursor.forward (run.length + 1)).ahead = after := by
        rw [← Cursor.forward_forward, Cursor.ahead_forward, hbehind]
        rfl
      have hnext := runs_discard_next (cursor.forward run.length)
      rw [Cursor.forward_forward] at hnext
      rw [List.length_cons] at h
      by_cases hslash : after.head? = some '/'
      · obtain ⟨tail, rfl⟩ := List.head?_eq_some_iff.1 hslash
        have hexpect := runs_expect_of_pos hafter
        rw [Cursor.forward_forward] at hexpect
        rw [commentRest]
        exact .bind hnext (.bind hexpect (.pure _ _))
      · have hexpect : Runs (expect '/') (cursor.forward (run.length + 1)) false
            (cursor.forward (run.length + 1)) := runs_expect_of_neg (hafter ▸ hslash)
        have hcomment := ih (cursor.forward (run.length + 1)) (by rw [hafter]; omega)
        rw [hafter, Cursor.forward_forward] at hcomment
        have hasterisk : commentRest ('*' :: after) =
            (1 + (commentRest after).1, (commentRest after).2) := by
          rw [commentRest]
          · rw [Nat.add_comm]
          · rintro tail - rfl
            exact hslash rfl
        rw [hasterisk, ← Nat.add_assoc]
        exact .bind hnext (.bind hexpect hcomment)

/-- The search through a comment by bytes passes what is left of it. -/
theorem runs_comment (cursor : Cursor) :
    Runs comment cursor (commentRest cursor.ahead).2
      (cursor.forward (commentRest cursor.ahead).1) := by
  obtain ⟨count, hcount, hrounds⟩ := runs_rounds cursor
  exact .bind hrounds (runs_commentWithin cursor hcount)

end

/-! ## Words -/

section
variable {cursor : Cursor} {first : Char} {rest : Text}

/-- A mark behind a run is one byte long, so the slice that takes it in ends at a boundary. -/
theorem runs_passMark (hahead : cursor.ahead = first :: rest) :
    Runs passMark (cursor.begin.forward (1 + rest.runLength Word.continues)) ()
      (cursor.begin.forward (wordLength first rest)) := by
  have hbehind : (cursor.begin.forward (1 + rest.runLength Word.continues)).ahead =
      rest.drop (rest.runLength Word.continues) :=
    Cursor.ahead_forward_begin_of_cons hahead _
  have hpeek := runs_peek (cursor.begin.forward (1 + rest.runLength Word.continues))
  rw [Cursor.peek?, hbehind] at hpeek
  rw [wordLength]
  refine .bind hpeek ?_
  cases hmark : rest.drop (rest.runLength Word.continues) with
  | nil =>
    rw [Nat.add_comm]
    exact .pure _ _
  | cons mark after =>
    simp only [List.head?_cons]
    cases hisMark : mark == '!' || mark == '?' with
    | false =>
      simp only [Bool.false_and, Bool.false_eq_true, if_false]
      rw [Nat.add_comm]
      exact .pure _ _
    | true =>
      have hsize : mark.utf8Size = 1 := by
        rw [Bool.or_eq_true, beq_iff_eq, beq_iff_eq] at hisMark
        rcases hisMark with rfl | rfl <;> rfl
      have hmarked : cursor.ahead.take (1 + rest.runLength Word.continues) ++ [mark] =
          (first :: rest).take (rest.runLength Word.continues + 2) := by
        rw [hahead, Nat.add_comm 1, List.take_succ_cons, List.take_succ_cons, List.cons_append,
          List.take_add_one, ← List.head?_drop, hmark]
        rfl
      have hslice := runs_slice _ (Cursor.lexeme?_forward_begin
        (1 + rest.runLength Word.continues) cursor) 1
      rw [hbehind, hmark, List.take_succ_cons, List.take_zero, hmarked, Text.byteLength_cons,
        hsize, Text.byteLength_nil, Nat.add_zero] at hslice
      refine .bind (runs_get _) (.bind hslice ?_)
      have hnext := runs_discard_next
        (cursor.begin.forward (1 + rest.runLength Word.continues))
      rw [Cursor.forward_forward] at hnext
      simp only [Bool.true_and]
      split
      · rw [show rest.runLength Word.continues + 2 = 1 + rest.runLength Word.continues + 1 by
          omega]
        exact hnext
      · rw [Nat.add_comm]
        exact .pure _ _

/-- A word is passed with its mark and looked up. -/
theorem runs_word (hahead : cursor.ahead = first :: rest) :
    Runs word (cursor.begin.forward 1) (scanWord first rest).scanned
      (cursor.begin.forward (scanWord first rest).length) := by
  have hrun := runs_passWhile (cursor.begin.forward 1) Word.continues
  rw [Cursor.passWhile, Cursor.ahead_forward_begin_of_cons hahead 0,
    Cursor.forward_forward, List.drop_zero] at hrun
  have hlexeme := Cursor.lexeme?_forward_begin (wordLength first rest) cursor
  rw [hahead] at hlexeme
  rw [scanWord_length]
  refine .bind hrun.discard (.bind (runs_passMark hahead) (.bind (runs_current _ hlexeme) ?_))
  rw [scanWord]
  split
  · exact .pure _ _
  · split
    · exact .pure _ _
    · exact .pure _ _

end

/-! ## Lexemes -/

section
variable {cursor : Cursor} {first : Char} {rest : Text}

/-- Behind a slash, the rest of a comment or of an operator is passed. -/
theorem runs_slash (hahead : cursor.ahead = first :: rest) :
    Runs slash (cursor.begin.forward 1) (scanSlash rest).scanned
      (cursor.begin.forward (scanSlash rest).length) := by
  have hrest : (cursor.begin.forward 1).ahead = rest :=
    Cursor.ahead_forward_begin_of_cons hahead 0
  unfold scanSlash
  split
  next rest =>
    have hexpect := runs_expect_of_pos hrest
    rw [Cursor.forward_forward] at hexpect
    have hcomment := runs_comment (cursor.begin.forward (1 + 1))
    rw [Cursor.ahead_forward_begin_of_cons hahead, Cursor.forward_forward,
      Nat.add_comm (1 + 1)] at hcomment
    exact .bind hexpect (.bind hcomment (.pure _ _))
  next rest =>
    have hhead : (cursor.begin.forward 1).ahead.head? ≠ some '*' := by
      rw [hrest, List.head?_cons]
      decide
    have hasterisk := runs_expect_of_neg hhead
    have hexpect := runs_expect_of_pos hrest
    rw [Cursor.forward_forward] at hexpect
    have hend := runs_toEnd (cursor.begin.forward (1 + 1))
    rw [Cursor.toEnd, Cursor.ahead_forward_begin_of_cons hahead,
      Cursor.forward_forward, Nat.add_comm (1 + 1)] at hend
    exact .bind hasterisk (.bind hexpect (.bind hend (.pure _ _)))
  next hasterisk hslash =>
    have hnot {c : Char} (h : ∀ tail, rest = c :: tail → False) :
        Runs (expect c) (cursor.begin.forward 1) false (cursor.begin.forward 1) := by
      refine runs_expect_of_neg ?_
      rw [hrest]
      intro hhead
      obtain ⟨tail, htail⟩ := List.head?_eq_some_iff.1 hhead
      exact h tail htail
    have hrun := runs_passWhile (cursor.begin.forward 1) isOperatorSign
    rw [Cursor.passWhile, hrest, Cursor.forward_forward, Nat.add_comm] at hrun
    exact .bind (hnot hasterisk) (.bind (hnot hslash) (.bind hrun.discard (.pure _ _)))

/-- The first character of a lexeme in code decides what it is. -/
theorem runs_code (hahead : cursor.ahead = first :: rest) :
    Runs code cursor.begin (scanCode cursor.ahead).scanned
      (cursor.begin.forward (scanCode cursor.ahead).length) := by
  have hrest : (cursor.begin.forward 1).ahead = rest :=
    Cursor.ahead_forward_begin_of_cons hahead 0
  refine .bind (runs_next (show cursor.begin.ahead = first :: rest from hahead)) ?_
  rw [hahead, scanCode]
  simp only
  cases hquote : Quote.ofChar? first with
  | some quote =>
    have hstring := runs_string quote (cursor.begin.forward 1)
    rw [hrest, Cursor.forward_forward, Nat.add_comm] at hstring
    exact .bind hstring (.pure _ _)
  | none =>
    cases hopener : Delimiter.ofOpener? first with
    | some delimiter => exact .pure _ _
    | none =>
      cases hcloser : Delimiter.ofCloser? first with
      | some delimiter => exact .pure _ _
      | none =>
        simp only
        split
        · have hnumber := runs_number (cursor.begin.forward 1) first
          rw [hrest, Cursor.forward_forward, Nat.add_comm] at hnumber
          exact .bind hnumber (.pure _ _)
        · split
          · exact .pure _ _
          · split
            · exact runs_slash hahead
            · split
              · have hrun := runs_passWhile (cursor.begin.forward 1) isOperatorSign
                rw [Cursor.passWhile, hrest, Cursor.forward_forward, Nat.add_comm] at hrun
                exact .bind hrun.discard (.pure _ _)
              · exact runs_word hahead

end

/-- At the end of a line there is no lexeme in code. -/
theorem runs_code_of_ahead_eq_nil {cursor : Cursor} (h : cursor.ahead = []) :
    Runs code cursor.begin (scanCode cursor.ahead).scanned
      (cursor.begin.forward (scanCode cursor.ahead).length) := by
  rw [h]
  exact .bind (runs_passIf_of_neg (by simp [h])) (.pure _ _)

/-- **Lexemes are read by byte offsets.** From the offsets of any cursor and in any region, the
program reads the lexeme that the text ahead begins with. -/
theorem runs_scan (region : Region) (cursor : Cursor) :
    Runs (scan region) cursor.begin (Lexeme.scan region cursor.ahead).scanned
      (cursor.begin.forward (Lexeme.scan region cursor.ahead).length) := by
  cases region with
  | code =>
    cases hahead : cursor.ahead with
    | nil =>
      have hcode := runs_code_of_ahead_eq_nil hahead
      rwa [hahead] at hcode
    | cons first rest =>
      have hcode := runs_code hahead
      rwa [hahead] at hcode
  | string quote => exact .bind (runs_string quote cursor.begin) (.pure _ _)
  | comment => exact .bind (runs_comment cursor.begin) (.pure _ _)

end Offsets

end SyntaxMode
