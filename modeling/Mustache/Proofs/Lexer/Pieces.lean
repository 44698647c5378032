import Mustache.Proofs.Lexer.Step

/-!
# A tag in its pieces

A tag is read piece by piece. Each piece is what its pattern takes where the piece before it ends,
and what a pattern has taken is never given back. `Reads` says so of a text and the pieces at its
front, and `Tag.pieces` lists the pieces of a tag, each with its pattern.

**The law** (`readTag_eq_ok_iff`): a tag is read where, and only where, its pieces stand in this
way. So whether a tag is read, and as which tag, can be settled from the text ahead, piece after
piece, without a cursor.
-/

namespace Mustache

open Text Chars

/-- **The pieces stand at the front of a text**, each taken by its pattern where the piece before it
ends; behind the last of them is the rest. -/
inductive Reads : List (Pattern × Chars) → Chars → Chars → Prop
  | nil (rest : Chars) : Reads [] rest rest
  | cons {pattern : Pattern} {taken ahead rest : Chars} {others : List (Pattern × Chars)}
      (hmatch : pattern.match? (taken ++ ahead) = some taken) (h : Reads others ahead rest) :
      Reads ((pattern, taken) :: others) (taken ++ ahead) rest

namespace Reads

variable {pattern : Pattern} {taken rest : Chars} {others : List (Pattern × Chars)}
  {cursor : Cursor}

/-- The first piece is scanned, and the others stand behind it. -/
theorem scan (h : Reads ((pattern, taken) :: others) cursor.ahead rest) :
    ∃ next, cursor.scan pattern = .ok (taken, next) ∧ next.source = cursor.source
      ∧ Reads others next.ahead rest := by
  generalize hahead : cursor.ahead = text at h
  cases h with
  | @cons _ _ ahead _ _ hmatch h =>
    have hfront : pattern.match? cursor.ahead = some taken := hahead ▸ hmatch
    have hscan := Cursor.scan_of_match hfront
    refine ⟨_, hscan, Cursor.scan_source hscan, ?_⟩
    rw [Cursor.ahead_advance_of_append hahead]
    exact h

/-- A piece that is scanned stands in front of the others. -/
theorem of_scan {next : Cursor} (hscan : cursor.scan pattern = .ok (taken, next))
    (h : Reads others next.ahead rest) :
    Reads ((pattern, taken) :: others) cursor.ahead rest := by
  have hmatch := (Cursor.match_of_scan hscan).1
  rw [Cursor.scan_ahead hscan] at hmatch ⊢
  exact .cons hmatch h

/-- **What the pattern takes is the piece**, and no other text is. -/
theorem cons_iff {known ahead : Chars} (hknown : pattern.match? (known ++ ahead) = some known) :
    Reads ((pattern, taken) :: others) (known ++ ahead) rest
      ↔ taken = known ∧ Reads others ahead rest := by
  constructor
  · intro h
    generalize htext : known ++ ahead = text at h hknown
    cases h with
    | cons hmatch h =>
      rw [hmatch] at hknown
      cases hknown
      exact ⟨rfl, List.append_cancel_left htext ▸ h⟩
  · rintro ⟨rfl, h⟩
    exact .cons hknown h

end Reads

/-! ## What the patterns take -/

/-- A run of a class ends where something else begins. -/
theorem Chars.takeWhile_run {p : Char → Bool} {run rest : Chars} (hrun : ∀ c ∈ run, p c = true)
    (hrest : ∀ c ∈ rest.head?, p c = false) : (run ++ rest).takeWhile p = run := by
  rw [List.takeWhile_append_of_pos hrun]
  cases rest with
  | nil => rw [List.takeWhile_nil, List.append_nil]
  | cons c rest =>
    rw [List.takeWhile_cons, hrest c rfl, if_neg Bool.false_ne_true, List.append_nil]

namespace Pattern

theorem match?_literal (text rest : Chars) :
    (Pattern.literal text).match? (text ++ rest) = some text := by
  have hfront : text.isPrefixOf (text ++ rest) = true :=
    List.isPrefixOf_iff_prefix.mpr (List.prefix_append _ _)
  simp only [match?, hfront, if_true]

theorem match?_optionalSigil {c : Char} (hc : sigils.contains c = true) (rest : Chars) :
    Pattern.optionalSigil.match? ([c] ++ rest) = some [c] := by
  simp only [List.singleton_append, match?, hc, if_true]

/-- Where no sigil stands, none is taken. -/
theorem match?_optionalSigil_of_not {text : Chars} (h : ∀ c ∈ text.head?, c ∉ sigils) :
    Pattern.optionalSigil.match? text = some [] := by
  cases text with
  | nil => rfl
  | cons c text =>
    have hc : sigils.contains c = false := by
      rw [List.contains_eq_mem]
      exact decide_eq_false (h c rfl)
    simp only [match?, hc, Bool.false_eq_true, if_false]

/-- Padding is taken up to something else. -/
theorem match?_padding {padding rest : Chars} (hpadding : ∀ c ∈ padding, c = ' ')
    (hrest : ∀ c ∈ rest.head?, c ≠ ' ') :
    Pattern.padding.match? (padding ++ rest) = some padding := by
  refine congrArg some (takeWhile_run (fun c hc => ?_) fun c hc => ?_)
  · exact decide_eq_true (hpadding c hc)
  · exact decide_eq_false (hrest c hc)

variable {sigil rest : Chars}

/-- A name is taken up to something else. -/
theorem match?_name {close name : Chars} (hsigil : isFreeform sigil = false)
    (hname : ∀ c ∈ name, isName c = true) (hrest : ∀ c ∈ rest.head?, isName c = false) :
    (Pattern.content sigil close).match? (name ++ rest) = some name := by
  simp only [match?, hsigil, Bool.false_eq_true, if_false]
  exact congrArg some (takeWhile_run hname hrest)

/-- A closing sigil that stands there is taken. -/
theorem match?_closeSigil (h : closingSigil sigil <+: rest) :
    (Pattern.closeSigil sigil).match? rest = some (closingSigil sigil) := by
  simp only [match?, List.isPrefixOf_iff_prefix.mpr h, if_true]

/-- Where no closing sigil stands, nothing is taken. -/
theorem match?_closeSigil_of_not (h : ¬ closingSigil sigil <+: rest) :
    (Pattern.closeSigil sigil).match? rest = some [] := by
  have hfront : (closingSigil sigil).isPrefixOf rest = false :=
    Bool.eq_false_iff.mpr fun hfront => h (List.isPrefixOf_iff_prefix.mp hfront)
  simp only [match?, hfront, Bool.false_eq_true, if_false]

end Pattern

/-! ## Reading a tag -/

namespace Tag

/-- **The pieces of a tag**, each with the pattern that takes it. -/
def pieces (tag : Tag) : List (Pattern × Chars) :=
  [(.literal tag.openTag, tag.openTag), (.optionalSigil, tag.sigil),
    (.padding, tag.paddingBefore), (.content tag.sigil tag.closeTag, tag.content),
    (.padding, tag.paddingAfter), (.closeSigil tag.sigil, tag.closeSigil),
    (.literal tag.closeTag, tag.closeTag)]

/-- **The tag as it is when it was just read**: between the delimiters, where the cursor stood, and
with nothing of its line. -/
structure JustRead (delimiters : Delimiters) (start : Cursor) (tag : Tag) : Prop where
  openTag : tag.openTag = delimiters.opening.text
  closeTag : tag.closeTag = delimiters.closing.text
  offset : tag.offset = start.position
  spaceBefore : tag.spaceBefore = []
  spaceAfter : tag.spaceAfter = []
  standalone : tag.standalone = false

end Tag

namespace Lexer

variable {delimiters : Delimiters} {start after : Cursor} {tag : Tag}

/-- A tag whose pieces stand ahead is read. -/
theorem readTag_of_reads {rest : Chars} (hjust : tag.JustRead delimiters start)
    (h : Reads tag.pieces start.ahead rest) :
    ∃ after, readTag delimiters start = .ok (tag, after) ∧ after.source = start.source
      ∧ after.ahead = rest := by
  obtain ⟨openTag, sigil, paddingBefore, content, paddingAfter, closeSigil, closeTag, spaceBefore,
    spaceAfter, standalone, offset⟩ := tag
  obtain ⟨rfl, rfl, rfl, rfl, rfl, rfl⟩ := hjust
  obtain ⟨c₁, h₁, hsource₁, h⟩ := h.scan
  obtain ⟨c₂, h₂, hsource₂, h⟩ := h.scan
  obtain ⟨c₃, h₃, hsource₃, h⟩ := h.scan
  obtain ⟨c₄, h₄, hsource₄, h⟩ := h.scan
  obtain ⟨c₅, h₅, hsource₅, h⟩ := h.scan
  obtain ⟨c₆, h₆, hsource₆, h⟩ := h.scan
  obtain ⟨c₇, h₇, hsource₇, h⟩ := h.scan
  refine ⟨c₇, ?_, ?_, ?_⟩
  · unfold readTag
    simp only [bind, Except.bind, h₁, h₂, h₃, h₄, h₅, h₆, h₇]
    rfl
  · rw [hsource₇, hsource₆, hsource₅, hsource₄, hsource₃, hsource₂, hsource₁]
  · generalize c₇.ahead = text at h
    cases h
    rfl

/-- The pieces of a tag that is read stand ahead. -/
theorem reads_of_readTag (h : readTag delimiters start = .ok (tag, after)) :
    tag.JustRead delimiters start ∧ Reads tag.pieces start.ahead after.ahead := by
  simp only [readTag, bind_eq_ok, Prod.exists] at h
  obtain ⟨_, _, h₁, _, _, h₂, _, _, h₃, _, _, h₄, _, _, h₅, _, _, h₆, _, _, h₇, h⟩ := h
  cases h
  have hopen := Cursor.scan_literal h₁
  have hclose := Cursor.scan_literal h₇
  subst hopen hclose
  refine ⟨⟨rfl, rfl, rfl, rfl, rfl, rfl⟩, ?_⟩
  exact .of_scan h₁ <| .of_scan h₂ <| .of_scan h₃ <| .of_scan h₄ <| .of_scan h₅ <| .of_scan h₆ <|
    .of_scan h₇ <| .nil _

/-- **A tag is read just where its pieces stand.** -/
theorem readTag_eq_ok_iff :
    readTag delimiters start = .ok (tag, after)
      ↔ tag.JustRead delimiters start ∧ Reads tag.pieces start.ahead after.ahead
        ∧ after.source = start.source := by
  constructor
  · intro h
    obtain ⟨hjust, hreads⟩ := reads_of_readTag h
    exact ⟨hjust, hreads, (readTag_ahead h).2.1⟩
  · rintro ⟨hjust, hreads, hsource⟩
    obtain ⟨after', hread, hsource', hahead⟩ := readTag_of_reads hjust hreads
    rw [hread, Cursor.eq_of_source (hsource'.trans hsource.symm) hahead]

end Lexer

end Mustache
