import SyntaxMode.Proofs.Lexeme.Number

/-!
# A space behind a lexeme

A lexeme is read as far as it goes, so more text behind it may make it longer, or make another one
of it. But no lexeme goes on with a space unless it is enclosed: a space belongs to no run of the
reader, and to no number (`Number.lengthAfter_append_space`). An enclosed one that has ended does
not depend on what follows it. So a space, whatever stands behind it, leaves the lexeme before it
as it is (`scan_append_space`), apart from a line comment, which takes all that follows. How a
lexeme in code is read is decided by its first character, and `StartsCode` lists the ways there
are.
-/

namespace SyntaxMode

variable {text : Text}

/-- A space ends the runs that it does not belong to. -/
theorem Text.runLength_append_space {accepts : Char → Bool} (h : accepts ' ' = false)
    (text behind : Text) :
    (text ++ ' ' :: behind).runLength accepts = text.runLength accepts := by
  have hspace : (' ' :: behind).takeWhile accepts = [] := by
    rw [List.takeWhile_cons, h]
    rfl
  rw [runLength, runLength, List.takeWhile_append, hspace, List.append_nil]
  split
  next hall => exact hall.symm
  next => rfl

namespace Lexeme

/-! ## Numbers and words -/

namespace Number

open Grammar

/-- There is no space in a number. -/
theorem within_literal : Within (· != ' ') literal := by
  have hclass {accepts : Char → Bool} (h : accepts ' ' = false) (c : Char)
      (hc : accepts c = true) : (c != ' ') = true := by
    rw [bne_iff_ne]
    rintro rfl
    exact Bool.false_ne_true (h.symm.trans hc)
  have hone {accepts : Char → Bool} (h : accepts ' ' = false) :
      Within (· != ' ') (oneOf accepts) :=
    .oneOf (hclass h)
  have hdigits : Within (· != ' ') (atLeastOne digit) := .mul (hone rfl) (.star (hclass rfl))
  have hexponent : Within (· != ' ') exponent :=
    .mul (hone rfl) (.mul (.optional (hone rfl)) hdigits)
  have hfraction : Within (· != ' ') fraction := .mul (hone rfl) (.star (hclass rfl))
  have hhex : Within (· != ' ') hexPart := .mul (hone rfl) (.mul (hone rfl) (.star (hclass rfl)))
  have hpoint : Within (· != ' ') pointFirst :=
    .mul (hone rfl) (.optional (.mul hdigits (.optional hexponent)))
  have hzero : Within (· != ' ') zeroFirst := .mul (hone rfl) (.add hhex (.star (hclass rfl)))
  have hother : Within (· != ' ') digitFirst :=
    .mul (hone rfl) (.mul (.star (hclass rfl)) (.mul (.optional hfraction) (.optional hexponent)))
  exact .add (.add hpoint hzero) hother

/-- A space behind a number, and what follows the space, leaves its length as it is. -/
theorem lengthAfter_append_space {first : Char} (h : startsNumber first = true)
    (rest behind : Text) :
    lengthAfter first (rest ++ ' ' :: behind) = lengthAfter first rest := by
  have hspace : ∀ word ∈ literal, ' ' ∉ word := by
    intro word hword hmem
    exact Bool.false_ne_true (within_literal word hword ' ' hmem)
  have hlonger := longestMatch h (rest ++ ' ' :: behind)
  exact Nat.succ.inj (hlonger.unique ((longestMatch h rest).append hspace behind))

end Number

/-- A text is begun with as before when more follows it. -/
theorem take_cons_append {n : Nat} (first : Char) {rest : Text} (h : n ≤ rest.length + 1)
    (behind : Text) : (first :: (rest ++ behind)).take n = (first :: rest).take n := by
  rw [← List.cons_append]
  exact List.take_append_of_le_length h

/-- A space behind a word, and what follows the space, leaves its length as it is. -/
theorem wordLength_append_space (first : Char) (rest behind : Text) :
    wordLength first (rest ++ ' ' :: behind) = wordLength first rest := by
  have hrun : (rest ++ ' ' :: behind).runLength Word.continues = rest.runLength Word.continues :=
    Text.runLength_append_space rfl rest behind
  have hle := Text.runLength_le Word.continues rest
  simp only [wordLength, hrun, List.drop_append_of_le_length hle]
  cases hrest : rest.drop (rest.runLength Word.continues) with
  | nil => simp
  | cons mark after =>
    have hlength := congrArg List.length hrest
    rw [List.length_drop, List.length_cons] at hlength
    rw [take_cons_append first (by omega)]
    rfl

/-- A space behind a word, and what follows the space, leaves the word as it is. -/
theorem scanWord_append_space (first : Char) (rest behind : Text) :
    scanWord first (rest ++ ' ' :: behind) = scanWord first rest := by
  simp only [scanWord, wordLength_append_space, take_cons_append first (wordLength_le first rest)]

/-! ## Strings and comments -/

/-- A string that has ended does not depend on what follows it. -/
theorem stringRest_append_of_code {quote : Quote} {escaped : Bool}
    (h : (stringRest quote escaped text).2 = .code) (behind : Text) :
    stringRest quote escaped (text ++ behind) = stringRest quote escaped text := by
  induction text generalizing escaped with
  | nil => cases h
  | cons c rest ih =>
    rw [stringRest] at h
    rw [List.cons_append, stringRest, stringRest]
    split
    next => rfl
    next hopen =>
      rw [if_neg hopen] at h
      rw [ih h]

/-- A block comment that has ended does not depend on what follows it. -/
theorem commentRest_append_of_code (h : (commentRest text).2 = .code) (behind : Text) :
    commentRest (text ++ behind) = commentRest text := by
  fun_induction commentRest text with
  | case1 => cases h
  | case2 rest => rfl
  | case3 c rest hopen length region hrest ih =>
    rw [hrest] at ih
    -- The asterisk of a `*/` cannot be the last character: the comment would go on behind it.
    have hopen' : ∀ tail, ¬ (c = '*' ∧ rest ++ behind = '/' :: tail) := by
      rintro tail ⟨rfl, htail⟩
      cases rest with
      | nil => cases (congrArg Prod.snd hrest).trans h
      | cons d rest =>
        cases htail
        exact hopen rest rfl rfl
    rw [List.cons_append, commentRest, ih h]
    exact fun tail hc htail => hopen' tail ⟨hc, htail⟩

/-- A string that does not end on its line is all of it. -/
theorem stringRest_of_ne_code {quote : Quote} {escaped : Bool}
    (h : (stringRest quote escaped text).2 ≠ .code) :
    (stringRest quote escaped text).1 = text.length := by
  induction text generalizing escaped with
  | nil => rfl
  | cons c rest ih =>
    rw [stringRest] at h ⊢
    split
    next hend =>
      rw [if_pos hend] at h
      exact absurd rfl h
    next hopen =>
      rw [if_neg hopen] at h
      exact congrArg Nat.succ (ih h)

/-- A block comment that does not end on its line is all of it. -/
theorem commentRest_of_ne_code (h : (commentRest text).2 ≠ .code) :
    (commentRest text).1 = text.length := by
  fun_induction commentRest text with
  | case1 => rfl
  | case2 rest => exact absurd rfl h
  | case3 c rest hopen length region hrest ih =>
    rw [hrest] at ih
    exact congrArg Nat.succ (ih h)

/-! ## Lexemes -/

/-- A slash that begins no comment begins an operator. -/
theorem scanSlash_of_head?_ne {rest : Text} (hasterisk : rest.head? ≠ some '*')
    (hslash : rest.head? ≠ some '/') :
    scanSlash rest = colored .operator (rest.runLength isOperatorSign + 1) := by
  unfold scanSlash
  split
  · exact absurd rfl hasterisk
  · exact absurd rfl hslash
  · rfl

/-- A space behind an operator that starts with a slash, or behind a block comment that has ended,
leaves it as it is. -/
theorem scanSlash_append_space {rest : Text} (hcode : (scanSlash rest).region = .code)
    (hslash : rest.head? ≠ some '/') (behind : Text) :
    scanSlash (rest ++ ' ' :: behind) = scanSlash rest := by
  have hrun : (rest ++ ' ' :: behind).runLength isOperatorSign = rest.runLength isOperatorSign :=
    Text.runLength_append_space rfl rest behind
  cases rest with
  | nil => rfl
  | cons c rest =>
    by_cases hasterisk : c = '*'
    · subst hasterisk
      simp only [List.cons_append, scanSlash] at hcode ⊢
      rw [commentRest_append_of_code hcode]
    · have hne : (c :: rest).head? ≠ some '*' := fun heq => hasterisk (Option.some.inj heq)
      rw [scanSlash_of_head?_ne hne hslash, ← hrun]
      exact scanSlash_of_head?_ne hne hslash

/-- A slash that leaves no code behind starts a block comment, which is all of the text. -/
theorem scanSlash_length_of_ne_code {rest : Text} (h : (scanSlash rest).region ≠ .code) :
    (scanSlash rest).length = rest.length + 1 := by
  unfold scanSlash at h ⊢
  split at h
  next rest =>
    have hrest : (commentRest rest).1 = rest.length := commentRest_of_ne_code h
    simp only [hrest, List.length_cons]
  next => exact absurd rfl h
  next => exact absurd rfl h

/-- How a lexeme in code is read, which its first character decides, whatever follows. -/
inductive StartsCode (first : Char) : Prop where
  | string (quote : Quote) (h : ∀ rest, scanCode (first :: rest) = scanString quote rest)
  | punctuation (effect : Option Effect)
      (h : ∀ rest, scanCode (first :: rest) = Lexeme.punctuation effect)
  | number (hfirst : Number.startsNumber first = true)
      (h : ∀ rest, scanCode (first :: rest) =
        colored .number (Number.lengthAfter first rest + 1))
  | slash (hfirst : first = '/') (h : ∀ rest, scanCode (first :: rest) = scanSlash rest)
  | operator
      (h : ∀ rest, scanCode (first :: rest) =
        colored .operator (Text.runLength isOperatorSign rest + 1))
  | word (h : ∀ rest, scanCode (first :: rest) = scanWord first rest)

/-- The first character of code decides how its lexeme is read. -/
theorem startsCode (first : Char) : StartsCode first := by
  cases hquote : Quote.ofChar? first with
  | some quote => exact .string quote fun rest => by rw [scanCode, hquote]
  | none =>
  cases hopener : Delimiter.ofOpener? first with
  | some delimiter => exact .punctuation _ fun rest => by rw [scanCode, hquote, hopener]
  | none =>
  cases hcloser : Delimiter.ofCloser? first with
  | some delimiter => exact .punctuation _ fun rest => by rw [scanCode, hquote, hopener, hcloser]
  | none =>
  by_cases hnumber : Number.startsNumber first = true
  · exact .number hnumber fun rest => by simp [scanCode, hquote, hopener, hcloser, hnumber]
  by_cases hseparator : isSeparator first = true
  · exact .punctuation none fun rest => by
      simp [scanCode, hquote, hopener, hcloser, hnumber, hseparator]
  by_cases hslash : first = '/'
  · exact .slash hslash fun rest => by
      rw [hslash]
      rfl
  by_cases hoperator : isOperatorSign first = true
  · exact .operator fun rest => by
      simp [scanCode, hquote, hopener, hcloser, hnumber, hseparator, hslash, hoperator]
  · exact .word fun rest => by
      simp [scanCode, hquote, hopener, hcloser, hnumber, hseparator, hslash, hoperator]

/-- A space behind a lexeme of code that has ended leaves it as it is, unless it is a line
comment. -/
theorem scanCode_append_space (hne : text ≠ []) (hcode : (scanCode text).region = .code)
    (hcomment : ¬ ['/', '/'] <+: text) (behind : Text) :
    scanCode (text ++ ' ' :: behind) = scanCode text := by
  obtain ⟨first, rest, rfl⟩ := List.exists_cons_of_ne_nil hne
  rw [List.cons_append]
  cases startsCode first with
  | string quote h =>
    rw [h] at hcode
    rw [h, h, scanString, scanString, stringRest_append_of_code hcode]
  | punctuation effect h => rw [h, h]
  | number hfirst h => rw [h, h, Number.lengthAfter_append_space hfirst]
  | slash hfirst h =>
    subst hfirst
    have hslash : rest.head? ≠ some '/' := by
      intro hhead
      obtain ⟨tail, rfl⟩ := List.head?_eq_some_iff.1 hhead
      exact hcomment (List.prefix_append ['/', '/'] tail)
    rw [h] at hcode
    rw [h, h, scanSlash_append_space hcode hslash]
  | operator h => rw [h, h, Text.runLength_append_space rfl]
  | word h => rw [h, h, scanWord_append_space]

/-- Code goes on behind a word. -/
theorem region_scanWord (first : Char) (rest : Text) : (scanWord first rest).region = .code := by
  unfold scanWord
  simp only
  split
  · rfl
  · split <;> rfl

/-- A lexeme behind which no code goes on takes the rest of its line. -/
theorem scanCode_length_of_ne_code (hcode : (scanCode text).region ≠ .code) :
    (scanCode text).length = text.length := by
  cases text with
  | nil => rfl
  | cons first rest =>
    cases startsCode first with
    | string quote h =>
      rw [h] at hcode ⊢
      exact congrArg Nat.succ (stringRest_of_ne_code hcode)
    | slash hfirst h =>
      rw [h] at hcode ⊢
      exact scanSlash_length_of_ne_code hcode
    | punctuation effect h | number hfirst h | operator h =>
      rw [h] at hcode
      exact absurd rfl hcode
    | word h =>
      rw [h] at hcode
      exact absurd (region_scanWord first rest) hcode

/-- **A space ends a lexeme**, unless it stands in a string or in a block comment that goes on to
the next line, or in a line comment. -/
theorem scan_append_space {region : Region} (hne : text ≠ [])
    (hcode : (scan region text).region = .code)
    (hcomment : region = .code → ¬ ['/', '/'] <+: text) (behind : Text) :
    scan region (text ++ ' ' :: behind) = scan region text := by
  cases region with
  | code => exact scanCode_append_space hne hcode (hcomment rfl) behind
  | string quote =>
    simp only [scan] at hcode ⊢
    rw [stringRest_append_of_code hcode]
  | comment =>
    simp only [scan] at hcode ⊢
    rw [commentRest_append_of_code hcode]

/-- A lexeme behind which there is no code is all of the text. -/
theorem scan_length_of_ne_code {region : Region} (h : (scan region text).region ≠ .code) :
    (scan region text).length = text.length := by
  cases region with
  | code => exact scanCode_length_of_ne_code h
  | string quote => exact stringRest_of_ne_code h
  | comment => exact commentRest_of_ne_code h

end Lexeme

end SyntaxMode
