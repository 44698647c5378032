import Mustache.Node.Parser
import Mustache.Proofs.Lexer.Tiling

/-!
# Trees and the events they come from

To the reader of a tree a token is at most one **event**: plain text, an interpolation, a partial, a
block that opens or one that closes. A tree is written as events from left to right
(`Node.linearAll`), a block between the two events of its name. `Document.ofTokens_eq_ok_iff`: the
document read from tokens is the one tree whose events are those of the tokens. The tokens of a
template are all known to the reader, so `Document.parse_eq_ok_iff` says the same of a template.

The reader is followed at the level of events, by `Frames`: the nodes read inside the innermost open
block, and the blocks that are open, without the tags that opened them (`foldlM_read`). Reading the
events of nodes adds those nodes (`foldlM_linearAll`); what frames hold, written as events, is what
was read (`linear_of_foldlM`).
-/

namespace Mustache

/-- **What a token is to the reader of a tree.** -/
inductive Event where
  | text (text : Chars)
  | interpolation (name : Chars) (escaped : Bool)
  | inclusion (name : Chars) (indent : Chars)
  | opening (name : Chars) (inverted : Bool)
  | closing (name : Chars)
deriving DecidableEq, Repr

namespace Token

def tag? : Token → Option Tag
  | .text _ _ => none
  | .tag piece => some piece

/-- The tags among tokens, in order. -/
def tags (tokens : List Token) : List Tag := tokens.filterMap tag?

theorem mem_tags {tokens : List Token} {tag : Tag} : tag ∈ tags tokens ↔ .tag tag ∈ tokens := by
  unfold tags
  rw [List.mem_filterMap]
  constructor
  · rintro ⟨token, hmem, htag⟩
    cases token <;> cases htag
    exact hmem
  · exact fun hmem => ⟨_, hmem, rfl⟩

end Token

/-- **The event of a tag**; comments and delimiter tags are none. -/
def Tag.event? (tag : Tag) : Option Event :=
  match tag.kind? with
  | some .opening => some (.opening tag.content false)
  | some .inverted => some (.opening tag.content true)
  | some .closing => some (.closing tag.content)
  | some .partialTag | some .parentTag => some (.inclusion tag.content tag.spaceBefore)
  | some .escaped => some (.interpolation tag.content true)
  | some .unescaped | some .triple => some (.interpolation tag.content false)
  | some .comment | some .delimiters | none => none

namespace Token

/-- The token is plain text, or a tag whose sigil marks a kind. -/
def IsKnown : Token → Prop
  | .text .. => True
  | .tag piece => piece.kind?.isSome = true

/-- The event of a token. -/
def event? : Token → Option Event
  | .text plain _ => some (.text plain)
  | .tag piece => piece.event?

/-- The events of tokens, in order. -/
def events (tokens : List Token) : List Event := tokens.filterMap event?

theorem events_cons (token : Token) (tokens : List Token) :
    events (token :: tokens) = token.event?.toList ++ events tokens := by
  unfold events
  rw [List.filterMap_cons]
  cases token.event? <;> rfl

theorem events_tag (tag : Tag) (tokens : List Token) :
    events (.tag tag :: tokens) = tag.event?.toList ++ events tokens := events_cons _ tokens

theorem events_tag_of_some {tag : Tag} {event : Event} (h : tag.event? = some event)
    (tokens : List Token) : events (.tag tag :: tokens) = event :: events tokens := by
  rw [events_tag, h]
  rfl

theorem events_tag_of_none {tag : Tag} (h : tag.event? = none) (tokens : List Token) :
    events (.tag tag :: tokens) = events tokens := by
  rw [events_tag, h]
  rfl

theorem events_append (left right : List Token) :
    events (left ++ right) = events left ++ events right :=
  List.filterMap_append

end Token

namespace Node

mutual

/-- **A node as events.** -/
def linear : Node → List Event
  | .text plain => [.text plain]
  | .interpolation name escaped => [.interpolation name escaped]
  | .inclusion name indent => [.inclusion name indent]
  | .block name inverted children =>
    .opening name inverted :: (linearAll children ++ [.closing name])
  | .document children => linearAll children

/-- Nodes as events, one after the other. -/
def linearAll : List Node → List Event
  | [] => []
  | node :: rest => node.linear ++ linearAll rest

end

mutual

/-- There is no document in place in the node. -/
def IsFlat : Node → Prop
  | .block _ _ children => AllFlat children
  | .document _ => False
  | _ => True

def AllFlat : List Node → Prop
  | [] => True
  | node :: rest => node.IsFlat ∧ AllFlat rest

end

theorem linearAll_append (left right : List Node) :
    linearAll (left ++ right) = linearAll left ++ linearAll right := by
  induction left with
  | nil => rfl
  | cons node left ih => rw [List.cons_append, linearAll, linearAll, ih, List.append_assoc]

theorem allFlat_append {left right : List Node} :
    AllFlat (left ++ right) ↔ AllFlat left ∧ AllFlat right := by
  induction left with
  | nil => simp [AllFlat]
  | cons node left ih => rw [List.cons_append, AllFlat, AllFlat, ih, and_assoc]

theorem linearAll_concat (nodes : List Node) (node : Node) :
    linearAll (nodes ++ [node]) = linearAll nodes ++ node.linear := by
  rw [linearAll_append, linearAll, linearAll, List.append_nil]

theorem allFlat_concat {nodes : List Node} {node : Node} (hnodes : AllFlat nodes)
    (hnode : node.IsFlat) : AllFlat (nodes ++ [node]) :=
  allFlat_append.mpr ⟨hnodes, hnode, trivial⟩

end Node

/-! ## Reading events -/

/-- A block that is open: its name, whether it is inverted, and the nodes before it, nearest
first. -/
structure Frame where
  name : Chars
  inverted : Bool
  before : List Node

/-- **A tree being read from events**: the nodes inside the innermost open block, nearest first, and
the open blocks, innermost first. -/
structure Frames where
  done : List Node
  enclosing : List Frame

namespace Frames

def empty : Frames := ⟨[], []⟩

def add (frames : Frames) (node : Node) : Frames := { frames with done := node :: frames.done }

/-- **One more event.** A block must be closed by its name. -/
def read (frames : Frames) : Event → Option Frames
  | .text text => some (frames.add (.text text))
  | .interpolation name escaped => some (frames.add (.interpolation name escaped))
  | .inclusion name indent => some (frames.add (.inclusion name indent))
  | .opening name inverted => some ⟨[], ⟨name, inverted, frames.done⟩ :: frames.enclosing⟩
  | .closing name =>
    match frames.enclosing with
    | [] => none
    | frame :: enclosing =>
      if frame.name = name then
        some ⟨.block frame.name frame.inverted frames.done.reverse :: frame.before, enclosing⟩
      else none

/-- The events of open blocks and of what stands before them. -/
def linearEnclosing : List Frame → List Event
  | [] => []
  | frame :: enclosing =>
    linearEnclosing enclosing ++ Node.linearAll frame.before.reverse
      ++ [.opening frame.name frame.inverted]

/-- **What was read**, as events. -/
def linear (frames : Frames) : List Event :=
  linearEnclosing frames.enclosing ++ Node.linearAll frames.done.reverse

/-- No document in place was read. -/
structure IsFlat (frames : Frames) : Prop where
  done : Node.AllFlat frames.done.reverse
  enclosing : ∀ frame ∈ frames.enclosing, Node.AllFlat frame.before.reverse

theorem IsFlat.empty : empty.IsFlat := ⟨trivial, nofun⟩

theorem linear_add (frames : Frames) (node : Node) :
    (frames.add node).linear = frames.linear ++ node.linear := by
  unfold add linear
  rw [List.reverse_cons, Node.linearAll_concat, List.append_assoc]

theorem IsFlat.add {frames : Frames} (h : frames.IsFlat) {node : Node} (hnode : node.IsFlat) :
    (frames.add node).IsFlat := by
  refine ⟨?_, h.enclosing⟩
  show Node.AllFlat (node :: frames.done).reverse
  rw [List.reverse_cons]
  exact Node.allFlat_concat h.done hnode

/-- **One more event is what was read more.** -/
theorem linear_of_read {frames frames' : Frames} {event : Event} (hflat : frames.IsFlat)
    (h : frames.read event = some frames') :
    frames'.linear = frames.linear ++ [event] ∧ frames'.IsFlat := by
  cases event with
  | text text =>
    cases h
    exact ⟨linear_add frames _, hflat.add trivial⟩
  | interpolation name escaped =>
    cases h
    exact ⟨linear_add frames _, hflat.add trivial⟩
  | inclusion name indent =>
    cases h
    exact ⟨linear_add frames _, hflat.add trivial⟩
  | opening name inverted =>
    cases h
    refine ⟨List.append_nil _, trivial, fun frame hframe => ?_⟩
    rcases List.mem_cons.mp hframe with rfl | hframe
    · exact hflat.done
    · exact hflat.enclosing frame hframe
  | closing name =>
    simp only [read] at h
    split at h
    · cases h
    next frame enclosing henclosing =>
      split at h
      next hname =>
        cases h
        obtain ⟨hdone, hbefore⟩ := hflat
        rw [henclosing] at hbefore
        refine ⟨?_, ?_, fun other hother => hbefore other (List.mem_cons_of_mem _ hother)⟩
        · simp only [linear, henclosing, linearEnclosing, List.reverse_cons,
            Node.linearAll_concat, Node.linear, hname, List.append_assoc, List.cons_append,
            List.nil_append]
        · show Node.AllFlat (_ :: frame.before).reverse
          rw [List.reverse_cons]
          exact Node.allFlat_concat (hbefore frame List.mem_cons_self) hdone
      · cases h

/-- **Soundness**: what frames hold is what was read. -/
theorem linear_of_foldlM {events : List Event} {frames frames' : Frames} (hflat : frames.IsFlat)
    (h : events.foldlM read frames = some frames') :
    frames'.linear = frames.linear ++ events ∧ frames'.IsFlat := by
  induction events generalizing frames with
  | nil =>
    cases h
    exact ⟨(List.append_nil _).symm, hflat⟩
  | cons event events ih =>
    rw [List.foldlM_cons] at h
    obtain ⟨middle, hread, hrest⟩ := Option.bind_eq_some_iff.mp h
    obtain ⟨hmiddle, hmiddleFlat⟩ := linear_of_read hflat hread
    obtain ⟨hlinear, hflat'⟩ := ih hmiddleFlat hrest
    exact ⟨by rw [hlinear, hmiddle, List.append_assoc]; rfl, hflat'⟩

mutual

theorem foldlM_linear (frames : Frames) :
    ∀ node : Node, node.IsFlat → node.linear.foldlM read frames = some (frames.add node)
  | .text _, _ => rfl
  | .interpolation _ _, _ => rfl
  | .inclusion _ _, _ => rfl
  | .block name inverted children, hflat => by
    have hchildren := foldlM_linearAll ⟨[], ⟨name, inverted, frames.done⟩ :: frames.enclosing⟩
      children hflat
    rw [Node.linear, List.foldlM_cons]
    show List.foldlM read _ (Node.linearAll children ++ [.closing name]) = _
    rw [List.foldlM_append, hchildren]
    show read _ (.closing name) >>= _ = _
    simp only [read, if_true, List.append_nil, List.reverse_reverse]
    rfl
  | .document _, hflat => hflat.elim

/-- **Completeness**: reading the events of nodes adds the nodes. -/
theorem foldlM_linearAll (frames : Frames) :
    ∀ nodes : List Node, Node.AllFlat nodes → (Node.linearAll nodes).foldlM read frames
      = some { frames with done := nodes.reverse ++ frames.done }
  | [], _ => rfl
  | node :: rest, hflat => by
    rw [Node.linearAll, List.foldlM_append, foldlM_linear frames node hflat.1]
    show (Node.linearAll rest).foldlM read (frames.add node) = _
    rw [foldlM_linearAll (frames.add node) rest hflat.2, List.reverse_cons, List.append_assoc]
    rfl

end

end Frames

/-! ## The reader of tokens -/

namespace Builder

/-- The tree being built, without the tags. -/
def frames (builder : Builder) : Frames :=
  ⟨builder.done, builder.enclosing.map fun block => ⟨block.name, block.inverted, block.before⟩⟩

/-- Closing a block is reading the event. -/
theorem frames_closeBlock (builder : Builder) (source : Chars) (tag : Tag) :
    (builder.closeBlock source tag).toOption.map frames
      = builder.frames.read (.closing tag.content) := by
  unfold closeBlock Frames.read frames
  cases henclosing : builder.enclosing with
  | nil => rfl
  | cons block enclosing =>
    by_cases hname : block.name = tag.content
    · simp only [List.map_cons, hname, if_true]
      rfl
    · simp only [List.map_cons, hname, if_false]
      rfl

/-- **One more token is its event**, or nothing when it is none. -/
theorem frames_read (builder : Builder) (source : Chars) {token : Token} (h : token.IsKnown) :
    (builder.read source token).toOption.map frames
      = token.event?.toList.foldlM Frames.read builder.frames := by
  cases token with
  | text plain offset => rfl
  | tag tag =>
    obtain ⟨kind, hkind⟩ := Option.isSome_iff_exists.mp h
    have hclose := frames_closeBlock builder source tag
    show (builder.readTag source tag).toOption.map frames
      = tag.event?.toList.foldlM Frames.read builder.frames
    unfold readTag Tag.event?
    rw [hkind]
    cases kind with
    | closing =>
      show (builder.closeBlock source tag).toOption.map frames
        = (builder.frames.read (.closing tag.content)).bind some
      rw [hclose, Option.bind_fun_some]
    | _ => rfl

/-- **Reading tokens is reading their events.** -/
theorem foldlM_read (builder : Builder) (source : Chars) {tokens : List Token}
    (h : ∀ token ∈ tokens, token.IsKnown) :
    (tokens.foldlM (read source) builder).toOption.map frames
      = (Token.events tokens).foldlM Frames.read builder.frames := by
  induction tokens generalizing builder with
  | nil => rfl
  | cons token tokens ih =>
    have hfirst := frames_read builder source (h token List.mem_cons_self)
    rw [Token.events_cons, List.foldlM_append, ← hfirst, List.foldlM_cons]
    cases hread : builder.read source token with
    | error fault => rfl
    | ok next => exact ih next fun other hother => h other (List.mem_cons_of_mem _ hother)

end Builder

/-- **The document read**, unless a block is still open. -/
def Frames.document? (frames : Frames) : Option Document :=
  match frames.enclosing with
  | [] => some ⟨frames.done.reverse⟩
  | _ :: _ => none

theorem Frames.document?_eq_some_iff {frames : Frames} {document : Document} :
    frames.document? = some document ↔ frames = ⟨document.children.reverse, []⟩ := by
  obtain ⟨done, enclosing⟩ := frames
  obtain ⟨children⟩ := document
  unfold document?
  cases enclosing with
  | nil =>
    simp only [Option.some.injEq, Document.mk.injEq, Frames.mk.injEq, and_true]
    exact List.reverse_eq_iff
  | cons frame enclosing => simp

/-- A document is read when all blocks are closed, and it holds the nodes read. -/
theorem Builder.toOption_finish (builder : Builder) (source : Chars) :
    (builder.finish source).toOption = builder.frames.document? := by
  unfold finish Frames.document? frames
  cases builder.enclosing <;> rfl

/-- **Reading a document from tokens is reading it from their events.** -/
theorem Document.toOption_ofTokens {tokens : List Token} (source : Chars)
    (hknown : ∀ token ∈ tokens, token.IsKnown) :
    (ofTokens tokens source).toOption
      = ((Token.events tokens).foldlM Frames.read .empty).bind Frames.document? := by
  have hfold := Builder.foldlM_read .empty source hknown
  show (tokens.foldlM (Builder.read source) .empty
      >>= fun builder => builder.finish source).toOption
    = (List.foldlM Frames.read Builder.empty.frames _).bind _
  rw [← hfold]
  cases tokens.foldlM (Builder.read source) .empty with
  | error fault => rfl
  | ok builder => exact builder.toOption_finish source

/-- **The document read from tokens** is the one tree, with no document in place, whose events are
those of the tokens. -/
theorem Document.ofTokens_eq_ok_iff {tokens : List Token} {source : Chars} {document : Document}
    (hknown : ∀ token ∈ tokens, token.IsKnown) :
    ofTokens tokens source = .ok document
      ↔ Node.linearAll document.children = Token.events tokens
        ∧ Node.AllFlat document.children := by
  have hoption : ofTokens tokens source = .ok document
      ↔ (ofTokens tokens source).toOption = some document := by
    cases ofTokens tokens source <;> simp [Except.toOption]
  rw [hoption, toOption_ofTokens source hknown, Option.bind_eq_some_iff]
  constructor
  · rintro ⟨frames, hread, hdocument⟩
    rw [Frames.document?_eq_some_iff.mp hdocument] at hread
    obtain ⟨hlinear, hflat⟩ := Frames.linear_of_foldlM .empty hread
    refine ⟨?_, ?_⟩
    · simpa [Frames.linear, Frames.linearEnclosing, Frames.empty, Node.linearAll] using hlinear
    · simpa using hflat.done
  · rintro ⟨hlinear, hflat⟩
    refine ⟨⟨document.children.reverse, []⟩, ?_, Frames.document?_eq_some_iff.mpr rfl⟩
    rw [← hlinear, Frames.foldlM_linearAll .empty document.children hflat]
    simp [Frames.empty]

/-! ## The document of a template -/

theorem Token.isKnown_of_mem_ofText {text : Chars} {offset : Int} {token : Token}
    (h : token ∈ ofText text offset) : token.IsKnown := by
  unfold ofText at h
  split at h
  · exact absurd h List.not_mem_nil
  · rw [List.mem_singleton.mp h]
    trivial

namespace Lexer

/-- Settling a tag on its line keeps its kind, and what is left to plain text is plain text. -/
theorem settle_isKnown {tag : Tag} {after : Cursor} {indent : Chars} {offset : Int}
    (htag : tag.kind?.isSome = true) (lineStart : Bool) :
    let settled := settle lineStart indent offset tag after
    ∀ token ∈ settled.blank ++ [.tag settled.tag], token.IsKnown := by
  intro settled token hmem
  have hkind := settle_kind? lineStart indent offset tag after
  rcases List.mem_append.mp hmem with hmem | hmem
  · rcases settle_cases lineStart indent offset tag after with ⟨ending, -, -, -, h⟩ | ⟨-, h⟩
    · rw [show settled = _ from h] at hmem
      cases hmem
    · rw [show settled = _ from h] at hmem
      exact Token.isKnown_of_mem_ofText hmem
  · rw [List.mem_singleton.mp hmem]
    show settled.tag.kind?.isSome = true
    rw [hkind]
    exact htag

/-- **The tokens of a step are known.** -/
theorem next_isKnown (delimiters : Delimiters) (start : Cursor) (step : Step)
    (h : next delimiters start = .ok step) : ∀ token ∈ step.tokens, token.IsKnown := by
  intro token hmem
  rcases next_cases delimiters start with ⟨-, hnext⟩ | ⟨text, indent, rest, -, hnext⟩
  · rw [hnext] at h
    cases h
    exact Token.isKnown_of_mem_ofText hmem
  · rw [hnext] at h
    simp only [tagStep, bind_eq_ok, Prod.exists] at h
    obtain ⟨tag, after, hread, _, -, h⟩ := h
    cases h
    rw [List.append_assoc] at hmem
    rcases List.mem_append.mp hmem with hmem | hmem
    · exact Token.isKnown_of_mem_ofText hmem
    · exact settle_isKnown (readTag_kind? hread) _ token hmem

end Lexer

theorem tokenize_isKnown {source : Chars} {tokens : List Token}
    (h : tokenize source = .ok tokens) : ∀ token ∈ tokens, token.IsKnown := by
  rw [tokenize_eq_run] at h
  exact Lexer.run_forall Lexer.next_isKnown h

/-- **The document of a template** is the one tree whose events are those of its tokens. -/
theorem Document.parse_eq_ok_iff {source : Chars} {document : Document} :
    parse source = .ok document ↔ ∃ tokens, tokenize source = .ok tokens
      ∧ Node.linearAll document.children = Token.events tokens
      ∧ Node.AllFlat document.children := by
  unfold parse
  rw [bind_eq_ok]
  constructor
  · rintro ⟨tokens, htokens, h⟩
    exact ⟨tokens, htokens, (ofTokens_eq_ok_iff (tokenize_isKnown htokens)).mp h⟩
  · rintro ⟨tokens, htokens, h⟩
    exact ⟨tokens, htokens, (ofTokens_eq_ok_iff (tokenize_isKnown htokens)).mpr h⟩

end Mustache
