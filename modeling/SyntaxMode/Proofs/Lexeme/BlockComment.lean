import Mathlib.Order.WellFounded
import SyntaxMode.Proofs.Offsets.Lexeme
import SyntaxMode.Proofs.Token.Comment

/-!
# Where a block comment ends

A block comment ends behind the first `*/` of its content. The reader goes from asterisk to
asterisk and looks at one character behind each; what it comes to can be said of the text alone:
`FirstAt` is the first place of a word in a text, and `Lexeme.commentRest_of_firstAt` and
`Lexeme.commentRest_of_noEnd` are the two ways in which the rest of a comment is read.
`CommentStart` names the two places where content begins, behind `/*` and at the first character of
a line that begins inside a comment, so that neither the asterisk of `/*` nor one at the end of the
line above is content. `comment_ends` says for both what is read there.
-/

namespace SyntaxMode

/-- A text is what stands before the first place of a word in another text. -/
structure Text.FirstAt (word text front : Text) : Prop where
  begins : front ++ word <+: text
  first : ∀ other, other ++ word <+: text → front.length ≤ other.length

/-- The two characters that end a block comment. -/
def Lexeme.commentEnd : Text := ['*', '/']

/-- Whether a token that is read at a cursor in a state is a block comment, or goes on with one: it
consists of `/*`, if the comment begins there, and of content from `rest`. -/
inductive CommentStart (cursor : Cursor) (state : State) : Text → Text → Prop where
  /-- In code, at `/*`. -/
  | opened {rest : Text} (hregion : state.region = .code)
      (hahead : cursor.ahead = '/' :: '*' :: rest) : CommentStart cursor state ['/', '*'] rest
  /-- Inside a comment, once the blanks at the start of the line are passed. -/
  | carried (hregion : state.region = .comment) (hblank : cursor.ahead.blankRun = 0)
      (hne : cursor.ahead ≠ []) : CommentStart cursor state [] cursor.ahead

/-! ## The first place of a word -/

namespace Text

variable {word text front : Text}

/-- A word that stands in a text somewhere stands in it at a first place. -/
theorem exists_firstAt (h : word <:+: text) : ∃ front, FirstAt word text front := by
  obtain ⟨before, behind, htext⟩ := h
  have hplace : ∃ front, front ++ word <+: text := ⟨before, behind, htext⟩
  obtain ⟨front, hbegins, hfirst⟩ :=
    WellFounded.has_min (measure List.length).wf {front | front ++ word <+: text} hplace
  exact ⟨front, hbegins, fun other hother => Nat.le_of_not_lt (hfirst other hother)⟩

/-- A word that begins a text has nothing before its first place. -/
theorem FirstAt.eq_nil (h : FirstAt word text front) (hword : word <+: text) : front = [] :=
  List.eq_nil_of_length_eq_zero (Nat.le_zero.1 (h.first [] hword))

/-- Where a word does not stand at the beginning, its first place is behind the first character. -/
theorem FirstAt.exists_cons {c : Char} (h : FirstAt word (c :: text) front)
    (hword : ¬ word <+: c :: text) : ∃ tail, front = c :: tail ∧ FirstAt word text tail := by
  cases front with
  | nil => exact absurd h.begins hword
  | cons d tail =>
    obtain ⟨rfl, hbegins⟩ := List.cons_prefix_cons.1 h.begins
    refine ⟨tail, rfl, hbegins, ?_⟩
    intro other hother
    have hlength := h.first (d :: other) (List.cons_prefix_cons.2 ⟨rfl, hother⟩)
    simpa using hlength

end Text

/-! ## The rest of a comment -/

namespace Lexeme

variable {rest content : Text}

/-- Characters that are not `*/` do not begin with it. -/
theorem not_commentEnd_isPrefix {c : Char}
    (hopen : ∀ tail, c = '*' → rest = '/' :: tail → False) : ¬ commentEnd <+: c :: rest := by
  intro hprefix
  obtain ⟨rfl, tail, rfl⟩ := List.cons_prefix_cons.1 hprefix
  exact hopen tail rfl rfl

/-- A comment ends behind the first `*/`. -/
theorem commentRest_of_firstAt (h : Text.FirstAt commentEnd rest content) :
    commentRest rest = (content.length + 2, .code) := by
  fun_induction commentRest rest generalizing content with
  | case1 => simpa [commentEnd] using h.begins.length_le
  | case2 rest =>
    obtain rfl := h.eq_nil (List.prefix_append commentEnd rest)
    rfl
  | case3 c rest hopen length region hrest ih =>
    obtain ⟨tail, rfl, htail⟩ := h.exists_cons (not_commentEnd_isPrefix hopen)
    have hread := ih htail
    rw [hrest] at hread
    simp only [Prod.mk.injEq] at hread
    simp [hread]

/-- Without `*/` a comment goes on to the end of the line. -/
theorem commentRest_of_noEnd (h : ¬ commentEnd <:+: rest) :
    commentRest rest = (rest.length, .comment) := by
  fun_induction commentRest rest with
  | case1 => rfl
  | case2 rest => exact absurd (List.prefix_append commentEnd rest).isInfix h
  | case3 c rest hopen length region hrest ih =>
    have hread := ih (mt List.infix_cons h)
    rw [hrest] at hread
    simp only [Prod.mk.injEq] at hread
    simp [hread]

/-- An asterisk behind what is left of a comment does not end it. -/
theorem not_infix_append_asterisk (h : ¬ commentEnd <:+: rest) :
    ¬ commentEnd <:+: rest ++ ['*'] := by
  intro hcontains
  rcases List.infix_concat_iff.1 hcontains with hsuffix | hcontains
  · obtain ⟨front, hfront⟩ := hsuffix
    have hlast := congrArg List.getLast? hfront
    simp [commentEnd] at hlast
  · exact h hcontains

end Lexeme

/-! ## Reading a comment -/

namespace CommentStart

open Lexeme

variable {cursor : Cursor} {state : State} {opening rest : Text}

/-- Ahead of a cursor at a comment are its opening and the rest of the line. -/
theorem ahead_eq (h : CommentStart cursor state opening rest) :
    cursor.ahead = opening ++ rest := by
  cases h with
  | opened _ hahead => exact hahead
  | carried => rfl

/-- A comment has at least one character to read. -/
theorem ahead_ne_nil (h : CommentStart cursor state opening rest) : cursor.ahead ≠ [] := by
  cases h with
  | opened _ hahead => simp [hahead]
  | carried _ _ hne => exact hne

/-- No blank is ahead where a comment begins or goes on. -/
theorem blankRun_eq_zero (h : CommentStart cursor state opening rest) :
    cursor.ahead.blankRun = 0 := by
  cases h with
  | opened _ hahead =>
    rw [hahead]
    rfl
  | carried _ hblank _ => exact hblank

/-- A comment that is read does not consist of blanks only. -/
theorem trimStart_ne_nil (h : CommentStart cursor state opening rest) :
    cursor.ahead.trimStart ≠ [] := by
  rw [← Text.drop_blankRun, h.blankRun_eq_zero]
  exact h.ahead_ne_nil

/-- The lexeme of a comment. -/
theorem scan_eq (h : CommentStart cursor state opening rest) :
    scan state.region cursor.ahead =
      let (length, region) := commentRest rest
      ⟨opening.length + length, some .comment, none, region⟩ := by
  cases h with
  | opened hregion hahead =>
    have hslash : scanCode ('/' :: '*' :: rest) = scanSlash ('*' :: rest) := rfl
    rw [hregion, hahead, scan, hslash, scanSlash]
    simp [Nat.add_comm]
  | carried hregion _ _ =>
    rw [hregion, scan]
    simp

/-- A comment is read to where its rest ends, and leaves all but the region as it is. -/
theorem read_eq (h : CommentStart cursor state opening rest) (config : Config) :
    Token.read config cursor state =
      let (length, region) := commentRest rest
      { text := opening ++ rest.take length
        style := some .comment
        cursor := cursor.begin.forward (opening.length + length)
        after := { state.atCursor config.tabSize cursor with region := region } } := by
  rw [Token.read_of_blankRun_eq_zero config state h.blankRun_eq_zero, h.scan_eq, h.ahead_eq]
  simp [State.afterLexeme_of_comment, List.take_length_add_append]

/-- The rest of a comment is searched by bytes, from behind `/*`. -/
theorem runs_comment (h : CommentStart cursor state opening rest) (config : Config) :
    Offsets.Runs Offsets.comment (cursor.begin.forward opening.length)
      (Token.read config cursor state).after.region (Token.read config cursor state).cursor := by
  have hruns := Offsets.runs_comment (cursor.begin.forward opening.length)
  rw [Cursor.forward_forward, Cursor.ahead_forward, Cursor.ahead_begin, h.ahead_eq,
    List.drop_left] at hruns
  rwa [h.read_eq]

/-- A comment with an end on the line is read up to the first end, and code goes on behind it. -/
theorem read_of_firstAt {content : Text} (h : CommentStart cursor state opening rest)
    (config : Config) (hcontent : Text.FirstAt commentEnd rest content) :
    (Token.read config cursor state).text = opening ++ content ++ commentEnd ∧
      (Token.read config cursor state).after.region = .code := by
  have htake := List.prefix_iff_eq_take.1 hcontent.begins
  rw [List.length_append] at htake
  rw [h.read_eq, commentRest_of_firstAt hcontent, List.append_assoc, htake]
  exact ⟨rfl, rfl⟩

/-- A comment that does not end on its line is read to the end of the line. -/
theorem read_of_noEnd (h : CommentStart cursor state opening rest) (config : Config)
    (hopen : ¬ commentEnd <:+: rest) :
    (Token.read config cursor state).text = opening ++ rest ∧
      (Token.read config cursor state).after =
        { state.atCursor config.tabSize cursor with region := .comment } ∧
      tokens config cursor state = [Token.read config cursor state] := by
  have hread := h.read_eq config
  rw [commentRest_of_noEnd hopen] at hread
  have hend : (Token.read config cursor state).cursor.ahead = [] := by
    rw [hread]
    simp [h.ahead_eq]
  refine ⟨?text, ?after, ?tokens⟩
  case text =>
    rw [hread]
    simp
  case after => rw [hread]
  case tokens =>
    rw [tokens_of_ahead_ne_nil config state h.ahead_ne_nil, tokens_of_ahead_eq_nil config _ hend]

/-- A comment begins or goes on in the same way on a longer line. -/
theorem extend (h : CommentStart cursor state opening rest) (more : Text) :
    CommentStart (cursor.extend more) state opening (rest ++ more) := by
  have htrim := h.trimStart_ne_nil
  cases h with
  | opened hregion hahead =>
    refine .opened hregion ?_
    rw [Cursor.ahead_extend, hahead]
    rfl
  | carried hregion hblank hne =>
    have hrun : (cursor.ahead ++ more).blankRun = cursor.ahead.blankRun :=
      congrArg List.length (Text.takeWhile_append_of_trimStart_ne_nil htrim more)
    exact .carried hregion (hrun.trans hblank) (List.append_ne_nil_of_left_ne_nil hne more)

/-- An asterisk at the end of the line of an open comment changes nothing behind the line. -/
theorem stateAfter_extend_asterisk (h : CommentStart cursor state opening rest) (config : Config)
    (hopen : ¬ commentEnd <:+: rest) :
    stateAfter state (tokens config (cursor.extend ['*']) state) =
      stateAfter state (tokens config cursor state) := by
  have hlonger := h.extend ['*']
  have hopen' := not_infix_append_asterisk hopen
  obtain ⟨-, hafter, htokens⟩ := h.read_of_noEnd config hopen
  obtain ⟨-, hafter', htokens'⟩ := hlonger.read_of_noEnd config hopen'
  have hentered := State.atCursor_extend (fun _ => h.trimStart_ne_nil) ['*'] config.tabSize state
  rw [htokens, htokens', stateAfter_cons, stateAfter_cons, hafter, hafter', hentered]

end CommentStart

/-- A line that begins inside a comment goes on with it behind its leading blanks. -/
theorem exists_commentStart_of_region (config : Config) {state : State} {line : Text}
    (hregion : state.region = .comment) (hline : line.trimStart ≠ []) :
    ∃ blanks cursor before, lineTokens config state line = blanks ++ tokens config cursor before ∧
      blanks.flatMap Token.text = line.takeWhile isBlank ∧
      (∀ token ∈ blanks, token.style = none) ∧
      CommentStart cursor before [] line.trimStart := by
  obtain ⟨blanks, cursor, before, htokens, htext, hblanks, hahead, hbefore, -⟩ :=
    exists_lineTokens_eq_append config state hline
  refine ⟨blanks, cursor, before, htokens, htext, fun token htoken => (hblanks token htoken).2, ?_⟩
  have hblank : cursor.ahead.blankRun = 0 := by
    rw [hahead]
    exact Text.blankRun_trimStart line
  rw [← hahead] at hline ⊢
  exact .carried (hbefore.trans hregion) hblank hline

/-- **A block comment ends at the first `*/`.** Where a comment begins or goes on, it is read up to
the first `*/` of its content, and code follows. If its content has none, all of the line is read
and the next line begins inside the comment; an asterisk more at the end would change nothing about
that. In both cases the search through the bytes of the line ends where the token does. A line that
begins inside a comment, and is not blank, goes on with it behind its leading blanks. -/
theorem comment_ends (config : Config) :
    (∀ {cursor : Cursor} {state : State} {opening rest : Text},
      CommentStart cursor state opening rest →
        let token := Token.read config cursor state
        token.style = some .comment ∧
          Offsets.Runs Offsets.comment (cursor.begin.forward opening.length)
            token.after.region token.cursor ∧
          (Lexeme.commentEnd <:+: rest →
            ∃ content, Text.FirstAt Lexeme.commentEnd rest content ∧
              token.text = opening ++ content ++ Lexeme.commentEnd ∧
              token.after.region = .code) ∧
          (¬ Lexeme.commentEnd <:+: rest →
            token.text = opening ++ rest ∧ token.after.region = .comment ∧
              tokens config cursor state = [token] ∧
              stateAfter state (tokens config (cursor.extend ['*']) state) =
                stateAfter state (tokens config cursor state))) ∧
      ∀ (state : State) (line : Text), state.region = .comment → line.trimStart ≠ [] →
        ∃ blanks cursor before,
          lineTokens config state line = blanks ++ tokens config cursor before ∧
            blanks.flatMap Token.text = line.takeWhile isBlank ∧
            (∀ token ∈ blanks, token.style = none) ∧
            CommentStart cursor before [] line.trimStart := by
  constructor
  · intro cursor state opening rest h
    refine ⟨?style, h.runs_comment config, ?closed, ?carried⟩
    case style => rw [h.read_eq]
    case closed =>
      intro hcontains
      obtain ⟨content, hcontent⟩ := Text.exists_firstAt hcontains
      exact ⟨content, hcontent, h.read_of_firstAt config hcontent⟩
    case carried =>
      intro hopen
      obtain ⟨htext, hafter, htokens⟩ := h.read_of_noEnd config hopen
      exact ⟨htext, congrArg State.region hafter, htokens,
        h.stateAfter_extend_asterisk config hopen⟩
  · intro state line hregion hline
    exact exists_commentStart_of_region config hregion hline

/-- The theorem for a comment whose content begins with a slash, for one that is open behind an
asterisk, and for the line on which the latter goes on with a slash. -/
theorem comment_ends_two_lines :
    let closed : Cursor := .ofLine "/*/ é **/ x */".toList
    let carried : Cursor := .ofLine "/* a *".toList
    let inside : State := { State.initial {} with region := .comment }
    (∃ content, Text.FirstAt Lexeme.commentEnd "/ é **/ x */".toList content ∧
      (Token.read {} closed (State.initial {})).text = ['/', '*'] ++ content ++ ['*', '/'] ∧
      (Token.read {} closed (State.initial {})).after.region = .code) ∧
    (Token.read {} carried (State.initial {})).text = "/* a *".toList ∧
    (Token.read {} carried (State.initial {})).after.region = .comment ∧
    ∃ blanks cursor before,
      lineTokens {} inside "\t/ b */ c".toList = blanks ++ tokens {} cursor before ∧
        CommentStart cursor before [] "/ b */ c".toList := by
  intro closed carried inside
  have hclosed : CommentStart closed (State.initial {}) ['/', '*'] "/ é **/ x */".toList :=
    .opened rfl rfl
  have hcontains : Lexeme.commentEnd <:+: "/ é **/ x */".toList := by decide
  have hcarried : CommentStart carried (State.initial {}) ['/', '*'] " a *".toList :=
    .opened rfl rfl
  have hopen : ¬ Lexeme.commentEnd <:+: " a *".toList := by decide
  obtain ⟨blanks, cursor, before, htokens, -, -, hstart⟩ :=
    (comment_ends {}).2 inside "\t/ b */ c".toList rfl (by decide)
  obtain ⟨-, -, -, hread⟩ := (comment_ends {}).1 hcarried
  exact ⟨((comment_ends {}).1 hclosed).2.2.1 hcontains, (hread hopen).1, (hread hopen).2.1,
    blanks, cursor, before, htokens, hstart⟩

end SyntaxMode
