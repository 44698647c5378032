import Mustache.Proofs.Lexer.Layout
import Mustache.Proofs.Node.Linear

/-!
# Partials at every indentation

A partial is indented as text, before it is cut into tokens, so blanks come to stand in front of
tags, inside comments and inside definitions of delimiters. None of this is seen in the tree: the
indented text is cut into the same tags (`Tag.Indented`), with the indentation in what was theirs to
begin with, and is read into the same tree up to plain text and the indentation of partial tags
(`Node.Indented`).

Indenting is one way of laying a text out, so the tokens correspond by `tokenize_spell`. What is new
here is the reader: it is run on both sequences of events side by side, and plain text that only one
side has leaves the other where it is (`Frames.foldlM_indented`).
-/

namespace Mustache

open Text Chars

/-- The text with the indentation behind every line feed. -/
def Chars.indentBehind (indent text : Chars) : Chars :=
  text.flatMap fun c => if c = '\n' then c :: indent else [c]

/-- **A tag of the text and the tag it is in the text indented.** Both have the same pieces, but the
free content of comments and delimiter tags has the indentation behind every line feed, and a tag
alone on its line has it in front. A tag that is not alone takes nothing of its line. -/
structure Tag.Indented (indent : Chars) (tag indented : Tag) : Prop where
  openTag : indented.openTag = tag.openTag
  sigil : indented.sigil = tag.sigil
  paddingBefore : indented.paddingBefore = tag.paddingBefore
  content : indented.content
    = if tag.kind? = some .comment ∨ tag.kind? = some .delimiters then
        indentBehind indent tag.content
      else tag.content
  paddingAfter : indented.paddingAfter = tag.paddingAfter
  closeSigil : indented.closeSigil = tag.closeSigil
  closeTag : indented.closeTag = tag.closeTag
  standalone : indented.standalone = tag.standalone
  spaceBefore : tag.standalone = true → indented.spaceBefore = indent ++ tag.spaceBefore
  inline : tag.standalone = false → tag.spaceBefore = [] ∧ indented.spaceBefore = []
  spaceAfter : indented.spaceAfter = tag.spaceAfter

/-- **The same nodes, up to plain text and the indentation of partials.** A partial whose tag is
alone on its line is indented by so much more; the tag of any other has no indentation. -/
inductive Node.Indented (indent : Chars) : List Node → List Node → Prop
  | nil : Indented indent [] []
  | textLeft {plain : Chars} {nodes nodes' : List Node} (h : Indented indent nodes nodes') :
      Indented indent (.text plain :: nodes) nodes'
  | textRight {plain : Chars} {nodes nodes' : List Node} (h : Indented indent nodes nodes') :
      Indented indent nodes (.text plain :: nodes')
  | interpolation {name : Chars} {escaped : Bool} {nodes nodes' : List Node}
      (h : Indented indent nodes nodes') :
      Indented indent (.interpolation name escaped :: nodes) (.interpolation name escaped :: nodes')
  | inclusion {name before before' : Chars} {nodes nodes' : List Node}
      (hbefore : before' = indent ++ before ∨ before = [] ∧ before' = [])
      (h : Indented indent nodes nodes') :
      Indented indent (.inclusion name before :: nodes) (.inclusion name before' :: nodes')
  | block {name : Chars} {inverted : Bool} {children children' nodes nodes' : List Node}
      (hchildren : Indented indent children children') (h : Indented indent nodes nodes') :
      Indented indent (.block name inverted children :: nodes)
        (.block name inverted children' :: nodes')

/-- **The same events, up to plain text and the indentation of partials.** -/
inductive Event.Indented (indent : Chars) : List Event → List Event → Prop
  | nil : Indented indent [] []
  | textLeft {plain : Chars} {events events' : List Event} (h : Indented indent events events') :
      Indented indent (.text plain :: events) events'
  | textRight {plain : Chars} {events events' : List Event} (h : Indented indent events events') :
      Indented indent events (.text plain :: events')
  | interpolation {name : Chars} {escaped : Bool} {events events' : List Event}
      (h : Indented indent events events') :
      Indented indent (.interpolation name escaped :: events)
        (.interpolation name escaped :: events')
  | inclusion {name before before' : Chars} {events events' : List Event}
      (hbefore : before' = indent ++ before ∨ before = [] ∧ before' = [])
      (h : Indented indent events events') :
      Indented indent (.inclusion name before :: events) (.inclusion name before' :: events')
  | opening {name : Chars} {inverted : Bool} {events events' : List Event}
      (h : Indented indent events events') :
      Indented indent (.opening name inverted :: events) (.opening name inverted :: events')
  | closing {name : Chars} {events events' : List Event} (h : Indented indent events events') :
      Indented indent (.closing name :: events) (.closing name :: events')

variable {indent : Chars}

/-! ## The reader on both sides -/

theorem Node.Indented.append {left left' right right' : List Node}
    (hleft : Node.Indented indent left left') (hright : Node.Indented indent right right') :
    Node.Indented indent (left ++ right) (left' ++ right') := by
  induction hleft with
  | nil => exact hright
  | textLeft _ ih => exact .textLeft ih
  | textRight _ ih => exact .textRight ih
  | interpolation _ ih => exact .interpolation ih
  | inclusion hbefore _ ih => exact .inclusion hbefore ih
  | block hchildren _ _ ih => exact .block hchildren ih

namespace Frames

/-- Open blocks with the same names and corresponding nodes before them. -/
structure FrameIndented (indent : Chars) (frame frame' : Frame) : Prop where
  name : frame'.name = frame.name
  inverted : frame'.inverted = frame.inverted
  before : Node.Indented indent frame.before.reverse frame'.before.reverse

/-- **Frames that correspond**: the nodes read do, and the same blocks are open. -/
structure Indented (indent : Chars) (frames frames' : Frames) : Prop where
  done : Node.Indented indent frames.done.reverse frames'.done.reverse
  enclosing : List.Forall₂ (FrameIndented indent) frames.enclosing frames'.enclosing

variable {frames frames' : Frames}

/-- More nodes on both sides, also none on one of them. -/
theorem Indented.add (h : Indented indent frames frames') {nodes nodes' : List Node}
    (hnodes : Node.Indented indent nodes nodes') :
    Indented indent { frames with done := nodes.reverse ++ frames.done }
      { frames' with done := nodes'.reverse ++ frames'.done } := by
  refine ⟨?_, h.enclosing⟩
  show Node.Indented indent (nodes.reverse ++ frames.done).reverse
    (nodes'.reverse ++ frames'.done).reverse
  simp only [List.reverse_append, List.reverse_reverse]
  exact h.done.append hnodes

/-- A block closed on both sides, or on neither. -/
theorem Indented.close (h : Indented indent frames frames') (name : Chars) :
    Option.Rel (Indented indent) (frames.read (.closing name)) (frames'.read (.closing name)) := by
  obtain ⟨done, enclosing⟩ := frames
  obtain ⟨done', enclosing'⟩ := frames'
  obtain ⟨hdone, henclosing⟩ := h
  cases henclosing with
  | nil => exact .none
  | cons hframe hrest =>
    simp only [read, hframe.name]
    split
    · refine .some ⟨?_, hrest⟩
      show Node.Indented indent (_ :: _).reverse (_ :: _).reverse
      rw [List.reverse_cons, List.reverse_cons, hframe.inverted]
      exact hframe.before.append (.block hdone .nil)
    · exact .none

/-- **Reading events that correspond** gives frames that correspond, or fails on both sides. -/
theorem foldlM_indented {events events' : List Event} (h : Event.Indented indent events events')
    (hframes : Indented indent frames frames') :
    Option.Rel (Indented indent) (events.foldlM read frames) (events'.foldlM read frames') := by
  induction h generalizing frames frames' with
  | nil => exact .some hframes
  | textLeft _ ih => exact ih (hframes.add (.textLeft .nil))
  | textRight _ ih => exact ih (hframes.add (.textRight .nil))
  | interpolation _ ih => exact ih (hframes.add (.interpolation .nil))
  | inclusion hbefore _ ih => exact ih (hframes.add (.inclusion hbefore .nil))
  | opening _ ih => exact ih ⟨.nil, .cons ⟨rfl, rfl, hframes.done⟩ hframes.enclosing⟩
  | closing _ ih => exact rel_bind (hframes.close _) fun _ _ hnext => ih hnext

/-- Frames that correspond give documents that correspond, or none. -/
theorem Indented.document? (h : Indented indent frames frames') :
    Option.Rel (fun document document' : Document =>
        Node.Indented indent document.children document'.children)
      frames.document? frames'.document? := by
  obtain ⟨done, enclosing⟩ := frames
  obtain ⟨done', enclosing'⟩ := frames'
  obtain ⟨hdone, henclosing⟩ := h
  cases henclosing with
  | nil => exact .some hdone
  | cons _ _ => exact .none

end Frames

/-! ## The text indented -/

variable (hblank : ∀ c ∈ indent, isBlank c = true)

/-- Inside an indented text, the indentation comes behind every line feed. -/
theorem Layout.inside_indented (text : Chars) :
    (indented indent hblank).inside text = indentBehind indent text := by
  unfold inside indentBehind
  refine congrArg (List.flatMap · text) (funext fun c => ?_)
  by_cases h : c = '\n'
  · rw [if_pos h, h]
    rfl
  · rw [if_neg h, ofChar_of_ne _ h, beq_false_of_ne h]
    rfl

/-- A tag of the text laid out with an indentation is the tag indented. -/
theorem Tag.Relaid.indented {tag tag' : Tag}
    (h : tag.Relaid (Layout.indented indent hblank) tag') : tag.Indented indent tag' := by
  have hspace := h.spaceBefore
  refine ⟨h.openTag, h.sigil, h.paddingBefore, ?_, h.paddingAfter, h.closeSigil, h.closeTag,
    h.standalone, fun halone => ?_, fun hinline => ⟨(h.inline hinline).1, ?_⟩, ?_⟩
  · rw [h.content, Layout.inside_indented]
    simp only [Tag.isFreeform_iff]
  · rw [hspace, halone]
    rfl
  · rw [hspace, hinline, (h.inline hinline).1]
    rfl
  · rw [h.spaceAfter, Layout.spell_indented_ending hblank h.ending]

/-- **The tags of tokens laid out with an indentation** are the tags indented. -/
theorem Token.Relaid.tags {tokens relaid : List Token}
    (h : Token.Relaid (Layout.indented indent hblank) tokens relaid) :
    List.Forall₂ (Tag.Indented indent) (Token.tags tokens) (Token.tags relaid) := by
  induction h with
  | nil => exact .nil
  | text _ _ ih => exact ih
  | margin _ _ ih => exact ih
  | tag htag _ ih => exact .cons (htag.indented hblank) ih

/-- A tag indented is the same event, up to the indentation of a partial. -/
theorem Tag.Indented.events {tag tag' : Tag} (h : tag.Indented indent tag')
    {events events' : List Event} (hrest : Event.Indented indent events events') :
    Event.Indented indent (tag.event?.toList ++ events) (tag'.event?.toList ++ events') := by
  have hkind : tag'.kind? = tag.kind? := by
    unfold Tag.kind?
    rw [h.sigil]
  have hbefore : tag'.spaceBefore = indent ++ tag.spaceBefore
      ∨ tag.spaceBefore = [] ∧ tag'.spaceBefore = [] := by
    cases hstandalone : tag.standalone with
    | true => exact .inl (h.spaceBefore hstandalone)
    | false => exact .inr (h.inline hstandalone)
  have hname (kind : TagKind) (hcase : tag.kind? = some kind) (hcomment : kind ≠ .comment)
      (hdelimiters : kind ≠ .delimiters) : tag'.content = tag.content := by
    have hcontent := h.content
    rwa [hcase, if_neg (by simp [hcomment, hdelimiters])] at hcontent
  unfold Tag.event?
  rw [hkind]
  cases hcase : tag.kind? with
  | none => exact hrest
  | some kind =>
    have hsame := hname kind hcase
    cases kind with
    | comment | delimiters => exact hrest
    | escaped | unescaped | triple =>
      rw [hsame nofun nofun]
      exact .interpolation hrest
    | opening | inverted =>
      rw [hsame nofun nofun]
      exact .opening hrest
    | closing =>
      rw [hsame nofun nofun]
      exact .closing hrest
    | partialTag | parentTag =>
      rw [hsame nofun nofun]
      exact .inclusion hbefore hrest

/-- **The events of tokens laid out with an indentation** correspond to those of the tokens. -/
theorem Token.Relaid.events {tokens relaid : List Token}
    (h : Token.Relaid (Layout.indented indent hblank) tokens relaid) :
    Event.Indented indent (Token.events tokens) (Token.events relaid) := by
  induction h with
  | nil => exact .nil
  | text _ _ ih => exact .textLeft (.textRight ih)
  | margin _ _ ih => exact .textRight ih
  | tag htag _ ih =>
    rw [Token.events_cons, Token.events_cons]
    exact (htag.indented hblank).events ih

/-- A text and the text indented are cut into corresponding tokens, or neither is cut. -/
theorem tokenize_indentText_agree (text : Chars) :
    Agree (Token.Relaid (Layout.indented indent hblank)) (tokenize text)
      (tokenize (indentText indent text)) := by
  rw [Layout.indentText_eq_spell hblank]
  exact tokenize_spell _ (.inl rfl)

include hblank in
/-- **A partial and the partial indented** are read into corresponding trees, or neither is read. -/
theorem Document.parse_indentText_agree (text : Chars) :
    Agree (fun document document' =>
        Node.Indented indent document.children document'.children)
      (parse text) (parse (indentText indent text)) := by
  unfold parse
  refine (tokenize_indentText_agree hblank text).bind_of_ok fun tokens tokens' hleft hright h => ?_
  refine .of_toOption ?_
  rw [toOption_ofTokens _ (tokenize_isKnown hleft), toOption_ofTokens _ (tokenize_isKnown hright)]
  exact rel_bind (Frames.foldlM_indented (h.events hblank) ⟨.nil, .nil⟩) fun _ _ hindented =>
    hindented.document?

/-- **A text cut into tags is cut into the same tags at every indentation**, and one read as a
template is read as the same template, up to plain text and the indentation of its partials. -/
theorem indentText_transparent (hblank : ∀ c ∈ indent, isBlank c = true) (text : Chars) :
    ((∃ tokens', tokenize (indentText indent text) = .ok tokens')
        ↔ ∃ tokens, tokenize text = .ok tokens)
      ∧ (∀ tokens tokens', tokenize text = .ok tokens →
          tokenize (indentText indent text) = .ok tokens' →
          List.Forall₂ (Tag.Indented indent) (Token.tags tokens) (Token.tags tokens'))
      ∧ ∀ document, Document.parse text = .ok document →
          ∃ document', Document.parse (indentText indent text) = .ok document'
            ∧ Node.Indented indent document.children document'.children := by
  have htokens := tokenize_indentText_agree hblank text
  refine ⟨htokens.isOk_iff.symm, fun tokens tokens' hleft hright => ?_, fun document h => ?_⟩
  · rw [hleft, hright] at htokens
    exact htokens.of_ok.tags hblank
  · have hparse := Document.parse_indentText_agree hblank text
    rw [h] at hparse
    exact hparse.exists_right

/-- A comment of two lines, and a partial alone on its line, indented. -/
theorem indentText_transparent_comment :
    (∀ c ∈ ['\t', ' '], isBlank c = true)
      ∧ Document.parse "\x7b\x7b!a\nb\x7d\x7d\n \x7b\x7b>p\x7d\x7d\nc".toList
        = .ok ⟨[.inclusion ['p'] [' '], .text ['c']]⟩
      ∧ ∃ document',
        Document.parse
            (indentText ['\t', ' '] "\x7b\x7b!a\nb\x7d\x7d\n \x7b\x7b>p\x7d\x7d\nc".toList)
          = .ok document'
        ∧ Node.Indented ['\t', ' '] [.inclusion ['p'] [' '], .text ['c']] document'.children := by
  have hblank : ∀ c ∈ ['\t', ' '], isBlank c = true := List.all_eq_true.mp (by decide)
  have htokens : tokenize "\x7b\x7b!a\nb\x7d\x7d\n \x7b\x7b>p\x7d\x7d\nc".toList = .ok
      [.tag ⟨['{', '{'], ['!'], [], ['a', '\n', 'b'], [], [], ['}', '}'], [], ['\n'], true, 0⟩,
        .tag ⟨['{', '{'], ['>'], [], ['p'], [], [], ['}', '}'], [' '], ['\n'], true, 10⟩,
        .text ['c'] 17] := by
    rw [tokenize_eq_runWithin]
    decide +kernel
  have hparse : Document.parse "\x7b\x7b!a\nb\x7d\x7d\n \x7b\x7b>p\x7d\x7d\nc".toList
      = .ok ⟨[.inclusion ['p'] [' '], .text ['c']]⟩ :=
    Document.parse_eq_ok_iff.mpr ⟨_, htokens, rfl, trivial, trivial, trivial⟩
  exact ⟨hblank, hparse, (indentText_transparent hblank _).2.2 _ hparse⟩

end Mustache
