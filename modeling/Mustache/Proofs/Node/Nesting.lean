import Mustache.Proofs.Node.Linear

/-!
# Well-nested tokens

Tokens are **well nested** when some tree spells them: its events, written from left to right, are
the events of the tokens. The reader accepts exactly the well-nested tokens, gives the one tree that
spells them, and reports a fault of nesting on all others (`Document.ofTokens_spells`).

That there is but one tree is a fact about trees: their events determine them
(`Node.linearAll_injective`), since reading the events of a tree gives back the tree. That a reader
fails for nesting only is seen from one token to the next (`Builder.kind_of_read_error`), as the
sigil of a known tag is never at fault.
-/

namespace Mustache

/-- **Nodes with the same events are the same nodes**, when no document is in place among them. -/
theorem Node.linearAll_injective {left right : List Node} (hleft : AllFlat left)
    (hright : AllFlat right) (h : linearAll left = linearAll right) : left = right := by
  have hread := Frames.foldlM_linearAll .empty left hleft
  rw [h, Frames.foldlM_linearAll .empty right hright, Option.some.injEq] at hread
  have hdone := congrArg Frames.done hread
  simp only [Frames.empty, List.append_nil] at hdone
  exact (List.reverse_injective hdone).symm

/-- **The document spells the tokens**: no document is in place in it, and its events, from left to
right, are those of the tokens. -/
structure Document.Spells (document : Document) (tokens : List Token) : Prop where
  flat : Node.AllFlat document.children
  events : Node.linearAll document.children = Token.events tokens

/-- No two documents spell the same tokens. -/
theorem Document.Spells.unique {left right : Document} {tokens : List Token}
    (hleft : left.Spells tokens) (hright : right.Spells tokens) : left = right := by
  obtain ⟨nodes⟩ := left
  obtain ⟨nodes'⟩ := right
  have hnodes : nodes = nodes' :=
    Node.linearAll_injective hleft.flat hright.flat (hleft.events.trans hright.events.symm)
  rw [hnodes]

/-- Whether a token is known can be decided. -/
instance (token : Token) : Decidable token.IsKnown :=
  match token with
  | .text .. => isTrue trivial
  | .tag piece => inferInstanceAs (Decidable (piece.kind?.isSome = true))

/-! ## The faults of the reader -/

namespace Builder

variable {builder : Builder} {source : Chars} {fault : Fault}

theorem kind_of_closeBlock_error {tag : Tag} (h : builder.closeBlock source tag = .error fault) :
    fault.kind = .parse := by
  unfold closeBlock at h
  split at h
  · cases h
    rfl
  · split at h
    · cases h
    · cases h
      rfl

/-- **A known token fails for nesting only.** -/
theorem kind_of_read_error {token : Token} (hknown : token.IsKnown)
    (h : builder.read source token = .error fault) : fault.kind = .parse := by
  cases token with
  | text plain offset => cases h
  | tag tag =>
    obtain ⟨kind, hkind⟩ := Option.isSome_iff_exists.mp hknown
    have h : builder.readTag source tag = .error fault := h
    unfold readTag at h
    rw [hkind] at h
    cases kind with
    | closing => exact kind_of_closeBlock_error h
    | _ => cases h

/-- **Known tokens fail for nesting only.** -/
theorem kind_of_foldlM_error {tokens : List Token} (hknown : ∀ token ∈ tokens, token.IsKnown)
    (h : tokens.foldlM (read source) builder = .error fault) : fault.kind = .parse := by
  induction tokens generalizing builder with
  | nil => cases h
  | cons token tokens ih =>
    rw [List.foldlM_cons] at h
    cases hread : builder.read source token with
    | error first =>
      rw [hread] at h
      cases h
      exact kind_of_read_error (hknown token List.mem_cons_self) hread
    | ok next =>
      rw [hread] at h
      exact ih (fun other hother => hknown other (List.mem_cons_of_mem _ hother)) h

theorem kind_of_finish_error (h : builder.finish source = .error fault) : fault.kind = .parse := by
  unfold finish at h
  split at h
  · cases h
  · cases h
    rfl

end Builder

/-- A text that is not cut into tags fails for that. -/
theorem kind_of_tokenize_error {source : Chars} {fault : Fault}
    (h : tokenize source = .error fault) : fault.kind = .lex := by
  rw [tokenize_eq_run] at h
  obtain ⟨offset, pattern, place, rfl⟩ := Lexer.run_failsUnmatched _ _ fault h
  rfl

namespace Document

/-- **A document is not read for its nesting only**, when the tokens are known. -/
theorem kind_of_ofTokens_error {tokens : List Token} {source : Chars} {fault : Fault}
    (hknown : ∀ token ∈ tokens, token.IsKnown) (h : ofTokens tokens source = .error fault) :
    fault.kind = .parse := by
  unfold ofTokens at h
  cases hread : tokens.foldlM (Builder.read source) .empty with
  | error first =>
    rw [hread] at h
    cases h
    exact Builder.kind_of_foldlM_error hknown hread
  | ok builder =>
    rw [hread] at h
    exact Builder.kind_of_finish_error h

/-- **A text that is not read** fails for its tags or for its blocks. -/
theorem kind_of_parse_error {source : Chars} {fault : Fault}
    (h : parse source = .error fault) : fault.kind = .lex ∨ fault.kind = .parse := by
  rcases bind_eq_error.mp h with htokens | ⟨tokens, htokens, hdocument⟩
  · exact .inl (kind_of_tokenize_error htokens)
  · exact .inr (kind_of_ofTokens_error (tokenize_isKnown htokens) hdocument)

/-- **The reader accepts exactly the well-nested tokens** and loses nothing of them: the document
read is the one that spells the tokens, and where there is none the nesting is at fault. -/
theorem ofTokens_spells {tokens : List Token} (source : Chars)
    (hknown : ∀ token ∈ tokens, token.IsKnown) :
    (∀ document, ofTokens tokens source = .ok document ↔ document.Spells tokens)
      ∧ (∀ left right : Document, left.Spells tokens → right.Spells tokens → left = right)
      ∧ ((¬ ∃ document : Document, document.Spells tokens) →
          ∃ fault, ofTokens tokens source = .error fault ∧ fault.kind = .parse) := by
  have hiff (document : Document) :
      ofTokens tokens source = .ok document ↔ document.Spells tokens := by
    rw [ofTokens_eq_ok_iff hknown]
    exact ⟨fun ⟨hevents, hflat⟩ => ⟨hflat, hevents⟩, fun h => ⟨h.events, h.flat⟩⟩
  refine ⟨hiff, fun left right => Spells.unique, fun hnone => ?_⟩
  cases h : ofTokens tokens source with
  | ok document => exact absurd ⟨document, (hiff document).mp h⟩ hnone
  | error fault => exact ⟨fault, rfl, kind_of_ofTokens_error hknown h⟩

/-- A block with text, a comment, an inverted block around a partial, and an unescaped value. -/
theorem ofTokens_spells_nested :
    let tag (sigil content : String) : Tag :=
      ⟨['{', '{'], sigil.toList, [], content.toList, [], [], ['}', '}'], [], [], false, 0⟩
    let tokens : List Token := [.tag (tag "#" "a"), .text ['x'] 0, .tag (tag "!" "note"),
      .tag (tag "^" "b"), .tag (tag ">" "p"), .tag (tag "/" "b"), .tag (tag "&" "v"),
      .tag (tag "/" "a")]
    let document : Document := ⟨[.block ['a'] false
      [.text ['x'], .block ['b'] true [.inclusion ['p'] []], .interpolation ['v'] false]]⟩
    (∀ token ∈ tokens, token.IsKnown) ∧ document.Spells tokens
      ∧ ofTokens tokens [] = .ok document := by
  intro tag tokens document
  have hknown : ∀ token ∈ tokens, token.IsKnown := by decide
  have hspells : document.Spells tokens :=
    ⟨⟨⟨trivial, ⟨trivial, trivial⟩, trivial, trivial⟩, trivial⟩, by decide⟩
  exact ⟨hknown, hspells, ((ofTokens_spells [] hknown).1 document).mpr hspells⟩

end Document

end Mustache
