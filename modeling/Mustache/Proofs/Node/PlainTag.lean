import Mustache.Proofs.Node.Spelling

/-!
# Tags of a name alone

A plain tag holds a name and nothing behind it: it prints the name, opens a block of that name or
closes one (`PlainTag`). The name may be empty. In front of it stand any number of spaces; a name
that begins like a sigil needs one at least, where there is no sigil (`PlainTag.Fits`).

**The law** (`Document.parse_plainTags`): plain tags one behind the other, with nothing between
them, are read as just these. None of them takes the line for itself, as there is always a tag
behind it, or nothing at all.
-/

namespace Mustache

open Text Chars

/-- **A tag of a name alone**, with so many spaces in front of the name. -/
structure PlainTag where
  kind : TagKind
  spaces : Nat
  name : Chars

namespace PlainTag

/-- The tag as it is read at an offset. -/
def tag (plain : PlainTag) (offset : Int) : Tag where
  openTag := Delimiters.standard.opening.text
  sigil := plain.kind.sigil
  paddingBefore := List.replicate plain.spaces ' '
  content := plain.name
  paddingAfter := []
  closeSigil := []
  closeTag := Delimiters.standard.closing.text
  spaceBefore := []
  spaceAfter := []
  standalone := false
  offset := offset

/-- **The text of the tag.** -/
def written (plain : PlainTag) : Chars :=
  Delimiters.standard.opening.text ++ (plain.kind.sigil ++ (List.replicate plain.spaces ' '
    ++ (plain.name ++ Delimiters.standard.closing.text)))

/-- The text of tags, one behind the other. -/
def writtenAll (tags : List PlainTag) : Chars := tags.flatMap written

/-- What the tag is to the reader of a tree. -/
def event (plain : PlainTag) : Event :=
  match plain.kind with
  | .opening => .opening plain.name false
  | .closing => .closing plain.name
  | _ => .interpolation plain.name true

/-- **A plain tag that is read as it is written**: it prints a name, opens a block or closes one,
and a name that is not marked by a sigil does not begin like one. -/
structure Fits (plain : PlainTag) : Prop where
  kind : plain.kind = .escaped ∨ plain.kind = .opening ∨ plain.kind = .closing
  name : ∀ c ∈ plain.name, isName c = true
  first : plain.kind = .escaped → plain.spaces = 0 → ∀ c ∈ plain.name.head?, c ∉ sigils

variable {plain : PlainTag} {rest : Chars}

theorem Fits.not_isFreeform (h : plain.Fits) : isFreeform plain.kind.sigil = false := by
  rcases h.kind with hkind | hkind | hkind <;> rw [hkind] <;> rfl

/-- Behind the sigil stands the name, behind its spaces. -/
theorem Fits.match?_optionalSigil (h : plain.Fits) (rest : Chars) :
    Pattern.optionalSigil.match? (plain.kind.sigil ++ (List.replicate plain.spaces ' '
      ++ (plain.name ++ (Delimiters.standard.closing.text ++ rest)))) = some plain.kind.sigil := by
  rcases h.kind with hkind | hkind | hkind
  · have hfirst := h.first hkind
    rw [hkind]
    refine Pattern.match?_optionalSigil_of_not ?_
    cases hspaces : plain.spaces with
    | succ n =>
      rintro c ⟨⟩
      decide
    | zero =>
      cases hname : plain.name with
      | nil =>
        rintro c ⟨⟩
        decide
      | cons d name =>
        rintro c ⟨⟩
        exact hfirst hspaces d (hname ▸ rfl)
  · rw [hkind]
    exact Pattern.match?_optionalSigil (by decide) _
  · rw [hkind]
    exact Pattern.match?_optionalSigil (by decide) _

/-- There is no closing sigil. -/
theorem Fits.match?_closeSigil (h : plain.Fits) (rest : Chars) :
    (Pattern.closeSigil plain.kind.sigil).match? ([] ++ (Delimiters.standard.closing.text ++ rest))
      = some [] := by
  rcases h.kind with hkind | hkind | hkind <;> rw [hkind] <;> rfl

/-- **The pieces of the tag stand in its text.** -/
theorem Fits.reads (h : plain.Fits) (offset : Int) (rest : Chars) :
    Reads (plain.tag offset).pieces (plain.written ++ rest) rest := by
  have hspaces : ∀ c ∈ List.replicate plain.spaces ' ', c = ' ' :=
    fun c hc => List.eq_of_mem_replicate hc
  have hname : ∀ c ∈ (plain.name ++ (Delimiters.standard.closing.text ++ rest)).head?, c ≠ ' ' := by
    cases hcons : plain.name with
    | nil =>
      rintro c ⟨⟩
      decide
    | cons d others =>
      rintro c ⟨⟩ rfl
      have hspace := h.name ' ' (hcons ▸ List.mem_cons_self)
      exact absurd hspace (by decide)
  have hclose : ∀ c ∈ (Delimiters.standard.closing.text ++ rest).head?, isName c = false := by
    rintro c ⟨⟩
    decide
  have hpadding : Pattern.padding.match? ([] ++ (Delimiters.standard.closing.text ++ rest))
      = some [] := rfl
  unfold written Tag.pieces
  simp only [List.append_assoc]
  exact .cons (Pattern.match?_literal _ _) <| .cons (h.match?_optionalSigil rest) <|
    .cons (Pattern.match?_padding hspaces hname) <|
    .cons (Pattern.match?_name h.not_isFreeform h.name hclose) <| .cons hpadding <|
    .cons (h.match?_closeSigil rest) <| .cons (Pattern.match?_literal _ _) <| .nil rest

theorem kind?_tag (plain : PlainTag) (offset : Int) :
    (plain.tag offset).kind? = some plain.kind :=
  TagKind.ofSigil?_sigil plain.kind

/-- The event of the tag, wherever it is read. -/
theorem Fits.event?_of_kind? (h : plain.Fits) {tag : Tag} (hkind : tag.kind? = some plain.kind)
    (hname : tag.content = plain.name) : tag.event? = some plain.event := by
  unfold Tag.event? event
  rw [hkind, hname]
  rcases h.kind with hplain | hplain | hplain <;> rw [hplain]

end PlainTag

namespace Lexer

/-- **A step at a plain tag** with nothing of its line behind it reads the tag, and the rest is
ahead. -/
theorem next_of_plainTag {plain : PlainTag} {start : Cursor} {rest : Chars} (h : plain.Fits)
    (hahead : start.ahead = plain.written ++ rest)
    (hrest : rest = [] ∨ Pattern.endOfLine.match? rest = none) :
    ∃ tag after, next .standard start = .ok ⟨[.tag tag], .standard, after⟩ ∧ after.ahead = rest
      ∧ tag.event? = some plain.event := by
  have hkeeps : (plain.tag start.position).kind? ≠ some .delimiters := by
    rw [PlainTag.kind?_tag]
    rcases h.kind with hkind | hkind | hkind <;> rw [hkind] <;> decide
  have hreads : Reads (plain.tag start.position).pieces start.ahead rest :=
    hahead ▸ h.reads start.position rest
  obtain ⟨after, hafter, ⟨ending, hmatch, hnext⟩ | ⟨-, hnext⟩⟩ :=
    next_of_reads ⟨rfl, rfl, rfl, rfl, rfl, rfl⟩ hreads hkeeps
  · refine ⟨_, _, hnext, ?_, h.event?_of_kind? (plain.kind?_tag start.position) rfl⟩
    rcases hrest with rfl | hnone
    · rw [Cursor.ahead_advance, hafter, List.drop_nil]
    · rw [hnone] at hmatch
      cases hmatch
  · exact ⟨_, after, hnext, hafter, h.event?_of_kind? (plain.kind?_tag start.position) rfl⟩

/-- **A run over plain tags** reads one after the other. -/
theorem run_plainTags {tags : List PlainTag} (h : ∀ plain ∈ tags, plain.Fits) {start : Cursor}
    (hahead : start.ahead = PlainTag.writtenAll tags) :
    ∃ tokens, run .standard start = .ok tokens
      ∧ Token.events tokens = tags.map PlainTag.event := by
  induction tags generalizing start with
  | nil => exact ⟨[], run_nil _ hahead, rfl⟩
  | cons plain tags ih =>
    have hrest : PlainTag.writtenAll tags = []
        ∨ Pattern.endOfLine.match? (PlainTag.writtenAll tags) = none := by
      cases tags with
      | nil => exact .inl rfl
      | cons other tags => exact .inr rfl
    obtain ⟨tag, after, hnext, hafter, hevent⟩ :=
      next_of_plainTag (h plain List.mem_cons_self) hahead hrest
    obtain ⟨tokens, hrun, hevents⟩ :=
      ih (fun other hother => h other (List.mem_cons_of_mem _ hother)) hafter
    have hne : start.ahead ≠ [] := by
      rw [hahead]
      exact List.cons_ne_nil _ _
    refine ⟨.tag tag :: tokens, ?_, ?_⟩
    · rw [run_of_next hne hnext, hrun]
      rfl
    · rw [Token.events_tag_of_some hevent, hevents]
      rfl

end Lexer

/-- **Plain tags one behind the other are read as these tags.** A document with their events is the
document of the template. -/
theorem Document.parse_plainTags {tags : List PlainTag} (h : ∀ plain ∈ tags, plain.Fits)
    {document : Document} (hlinear : Node.linearAll document.children = tags.map PlainTag.event)
    (hflat : Node.AllFlat document.children) :
    parse (PlainTag.writtenAll tags) = .ok document := by
  have hahead : (Cursor.start (PlainTag.writtenAll tags)).ahead = PlainTag.writtenAll tags := rfl
  obtain ⟨tokens, hrun, hevents⟩ := Lexer.run_plainTags h hahead
  refine parse_eq_ok_iff.mpr ⟨tokens, ?_, hlinear.trans hevents.symm, hflat⟩
  rw [tokenize_eq_run]
  exact hrun

end Mustache
