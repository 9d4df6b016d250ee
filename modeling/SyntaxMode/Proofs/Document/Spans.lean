import SyntaxMode.Proofs.Document.FullScan
import SyntaxMode.Proofs.Offsets.Line

/-!
# The spans of a document

What is known of the lines of a current document is what a scan finds. So the spans of a line tile
it (`Current.tile`): each one ends before the next one begins, and no two are the same. Each span
shows a part of its line, which is an uncolored run of blanks or begins with a character that is
not blank (`Current.blank_or_of_mem_spans`).
-/

namespace SyntaxMode

section
variable {start stop : Nat} {spans : List Span}

/-- Spans that tile a line are not empty and begin behind its start. -/
theorem Tile.forall_mem (h : Tile start stop spans) :
    ∀ span ∈ spans, start ≤ span.start ∧ span.start < span.stop := by
  induction spans generalizing start with
  | nil =>
    intro span hspan
    cases hspan
  | cons first rest ih =>
    obtain ⟨rfl, hlt, hrest⟩ := h
    rintro span (_ | ⟨_, hspan⟩)
    · exact ⟨Nat.le_refl _, hlt⟩
    · obtain ⟨hstart, hne⟩ := ih hrest span hspan
      exact ⟨by omega, hne⟩

/-- Of two spans that tile a line, the first one ends before the second one begins. -/
theorem Tile.pairwise (h : Tile start stop spans) :
    spans.Pairwise fun first second => first.stop ≤ second.start := by
  induction spans generalizing start with
  | nil => exact .nil
  | cons first rest ih =>
    obtain ⟨-, -, hrest⟩ := h
    exact .cons (fun span hspan => (hrest.forall_mem span hspan).1) (ih hrest)

/-- No two spans that tile a line are the same. -/
theorem Tile.nodup (h : Tile start stop spans) : spans.Nodup := by
  rw [List.nodup_iff_pairwise_ne]
  refine h.pairwise.imp_of_mem ?_
  rintro first second hfirst - hle rfl
  exact absurd (h.forall_mem first hfirst).2 (Nat.not_lt.2 hle)

end

/-- The spans of a line that is read tile the line. -/
theorem tile_highlight (config : Config) (state : State) (text : Text) :
    Tile 0 text.byteLength (highlight config state text).1 := by
  have htile := tile_spansFrom 0 (lineTokens config state text)
    (forall_mem_tokens config (fun _ state => Token.text_ne_nil config state) _ _)
  rwa [flatMap_text_lineTokens, Nat.zero_add] at htile

/-- A token of a line is an uncolored run of blanks or begins with a character that is not
blank. -/
theorem blank_or_of_mem_lineTokens {config : Config} {state : State} {text : Text} {token : Token}
    (h : token ∈ lineTokens config state text) :
    (token.style = none ∧ token.text.isAllBlank = true) ∨
      ∃ c, token.text.head? = some c ∧ isBlank c = false :=
  forall_mem_tokens (p := fun token => (token.style = none ∧ token.text.isAllBlank = true) ∨
      ∃ c, token.text.head? = some c ∧ isBlank c = false) config
    (fun _ state => Token.read_blank_or config state) _ _ token h

namespace Document.Current

variable {document : Document} {line : Line}

/-- A line of a current document is known as a scan finds it, from some state. -/
theorem exists_eq_of_mem_lines (h : document.Current) (hline : line ∈ document.lines) :
    ∃ state text, line = .scan document.config state text := by
  obtain ⟨index, hindex⟩ := List.mem_iff_getElem?.1 hline
  rw [h.getElem?_lines, Option.map_eq_some_iff] at hindex
  obtain ⟨text, -, rfl⟩ := hindex
  exact ⟨_, text, rfl⟩

/-- The spans of each line of a current document tile the line. -/
theorem tile (h : document.Current) (hline : line ∈ document.lines) :
    Tile 0 line.text.byteLength line.spans := by
  obtain ⟨state, text, rfl⟩ := h.exists_eq_of_mem_lines hline
  exact tile_highlight ..

/-- Each span of a line of a current document shows a part of the line, which is an uncolored run
of blanks or begins with a character that is not blank. -/
theorem blank_or_of_mem_spans (h : document.Current) (hline : line ∈ document.lines) {span : Span}
    (hspan : span ∈ line.spans) :
    ∃ text, line.text.slice? span.start span.stop = some text ∧
      ((span.style = none ∧ text.isAllBlank = true) ∨
        ∃ c, text.head? = some c ∧ isBlank c = false) := by
  obtain ⟨state, text, rfl⟩ := h.exists_eq_of_mem_lines hline
  obtain ⟨token, htoken, hstyle, hslice⟩ := exists_token_of_mem_spansFrom [] _ hspan
  rw [List.nil_append, flatMap_text_lineTokens] at hslice
  exact ⟨token.text, hslice, hstyle ▸ blank_or_of_mem_lineTokens htoken⟩

end Document.Current

end SyntaxMode
