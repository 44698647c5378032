import Mustache.Proofs.Lexer.Pieces
import Mustache.Proofs.Render.Concatenation

/-!
# Tags that name something

A tag that names something can be spelled in several ways (`Spelling`): with any padding around the
name, and with or without a closing sigil. However it is spelled, it is read as the one tag of its
kind and its name (`tokenize_spelling`), and the closing sigil is no part of the name. So a block
may be opened and closed by tags with closing sigils or without.

A name may hold slashes: where a slash follows the name of a closing tag at once, it is the last
character of a longer name (`tokenize_slash`), so a closing sigil there needs padding in front
(`Spelling.Fits`).

**What is left out.** A tag that opens with a third brace is spelled with one that closes it; what
becomes of it otherwise is not said here.
-/

namespace Mustache

open Text Chars

namespace TagKind

/-- The sigil of the kind marks a tag that names something. -/
def marksName : TagKind → Bool
  | .escaped | .comment | .delimiters => false
  | _ => true

/-- **The sigil of a tag that names something** is one character, and so is its closing form. Only
the slash may stand in a name, and only the brace in a closing delimiter. -/
theorem exists_sigil {kind : TagKind} (h : kind.marksName = true) :
    ∃ c d, kind.sigil = [c] ∧ closingSigil [c] = [d] ∧ sigils.contains c = true
      ∧ isFreeform [c] = false ∧ d ≠ ' ' ∧ (kind ≠ .triple → d ≠ '\x7d')
      ∧ (kind ≠ .closing → isName d = false) := by
  cases kind with
  | escaped | comment | delimiters => cases h
  | unescaped => exact ⟨'&', '&', by decide⟩
  | triple => exact ⟨'\x7b', '\x7d', by decide⟩
  | opening => exact ⟨'#', '#', by decide⟩
  | inverted => exact ⟨'^', '^', by decide⟩
  | closing => exact ⟨'/', '/', by decide⟩
  | partialTag => exact ⟨'>', '>', by decide⟩
  | parentTag => exact ⟨'<', '<', by decide⟩

end TagKind

/-- **How a tag is spelled**: its kind, its name with so many spaces before and after it, and
whether a closing sigil stands at the end. -/
structure Spelling where
  kind : TagKind
  before : Nat
  name : Chars
  after : Nat
  closed : Bool

namespace Spelling

/-- The closing sigil, if the tag has one. -/
def closeSigil (spelling : Spelling) : Chars :=
  if spelling.closed then closingSigil spelling.kind.sigil else []

/-- The tag that is spelled so, at the beginning of a text. -/
def tag (spelling : Spelling) : Tag where
  openTag := Delimiters.standard.opening.text
  sigil := spelling.kind.sigil
  paddingBefore := List.replicate spelling.before ' '
  content := spelling.name
  paddingAfter := List.replicate spelling.after ' '
  closeSigil := spelling.closeSigil
  closeTag := Delimiters.standard.closing.text
  spaceBefore := []
  spaceAfter := []
  standalone := false
  offset := 0

/-- **The text of the spelling.** -/
def written (spelling : Spelling) : Chars :=
  Delimiters.standard.opening.text ++ spelling.kind.sigil ++ List.replicate spelling.before ' '
    ++ spelling.name ++ List.replicate spelling.after ' ' ++ spelling.closeSigil
    ++ Delimiters.standard.closing.text

/-- **A spelling spoken of here**: it has a name, a third brace is closed, and where the closing
sigil could be taken for a part of the name there is padding between. -/
structure Fits (spelling : Spelling) : Prop where
  kind : spelling.kind.marksName = true
  ne_nil : spelling.name ≠ []
  name : ∀ c ∈ spelling.name, isName c = true
  triple : spelling.kind = .triple → spelling.closed = true
  closing : spelling.kind = .closing → spelling.closed = true → spelling.after ≠ 0

variable {spelling : Spelling}

theorem kind?_tag (spelling : Spelling) : spelling.tag.kind? = some spelling.kind :=
  TagKind.ofSigil?_sigil spelling.kind

/-- Behind the name stands something that is no part of it. -/
theorem Fits.head?_behind_name (h : spelling.Fits) (rest : Chars) :
    ∀ c ∈ (List.replicate spelling.after ' ' ++ (spelling.closeSigil
      ++ (Delimiters.standard.closing.text ++ rest))).head?, isName c = false := by
  obtain ⟨c, d, hsigil, hclosing, -, -, -, -, hname⟩ := TagKind.exists_sigil h.kind
  intro e he
  cases hafter : spelling.after with
  | succ n =>
    rw [hafter, List.replicate_succ] at he
    cases he
    decide
  | zero =>
    rw [hafter, List.replicate_zero, List.nil_append, closeSigil, hsigil, hclosing] at he
    cases hclosed : spelling.closed with
    | true =>
      rw [hclosed] at he
      cases he
      exact hname fun hkind => h.closing hkind hclosed hafter
    | false =>
      rw [hclosed] at he
      cases he
      decide

/-- Behind the padding stands something else. -/
theorem Fits.head?_behind_padding (h : spelling.Fits) (rest : Chars) :
    ∀ c ∈ (spelling.closeSigil ++ (Delimiters.standard.closing.text ++ rest)).head?, c ≠ ' ' := by
  obtain ⟨c, d, hsigil, hclosing, -, -, hspace, -, -⟩ := TagKind.exists_sigil h.kind
  intro e he
  rw [closeSigil, hsigil, hclosing] at he
  cases hclosed : spelling.closed <;> rw [hclosed] at he <;> cases he
  · decide
  · exact hspace

/-- The closing sigil is taken if there is one. -/
theorem Fits.match?_closeSigil (h : spelling.Fits) (rest : Chars) :
    (Pattern.closeSigil spelling.kind.sigil).match?
        (spelling.closeSigil ++ (Delimiters.standard.closing.text ++ rest))
      = some spelling.closeSigil := by
  obtain ⟨c, d, hsigil, hclosing, -, -, -, hbrace, -⟩ := TagKind.exists_sigil h.kind
  unfold closeSigil
  cases hclosed : spelling.closed with
  | true => exact Pattern.match?_closeSigil (List.prefix_append _ _)
  | false =>
    refine Pattern.match?_closeSigil_of_not ?_
    rw [hsigil, hclosing]
    rintro ⟨others, hothers⟩
    have hne : spelling.kind ≠ .triple := by
      intro hkind
      rw [h.triple hkind] at hclosed
      cases hclosed
    exact hbrace hne (List.cons.inj hothers).1

/-- **The pieces of the tag stand in its text.** -/
theorem Fits.reads (h : spelling.Fits) (rest : Chars) :
    Reads spelling.tag.pieces (spelling.written ++ rest) rest := by
  obtain ⟨c, d, hsigil, -, hcontains, hfree, -⟩ := TagKind.exists_sigil h.kind
  have hpadding : ∀ (n : Nat), ∀ c ∈ List.replicate n ' ', c = ' ' :=
    fun n c hc => List.eq_of_mem_replicate hc
  have hname : ∀ (rest : Chars), ∀ c ∈ (spelling.name ++ rest).head?, c ≠ ' ' := by
    intro rest c hc hspace
    obtain ⟨first, others, hcons⟩ := List.exists_cons_of_ne_nil h.ne_nil
    rw [hcons] at hc
    have hfirst : first = c := Option.some.inj hc
    have hisName := h.name first (hcons ▸ List.mem_cons_self)
    rw [hfirst, hspace] at hisName
    exact absurd hisName (by decide)
  unfold written
  simp only [List.append_assoc]
  have hcloseSigil := h.match?_closeSigil rest
  unfold Tag.pieces
  refine .cons (Pattern.match?_literal _ _) ?_
  show Reads [(.optionalSigil, spelling.kind.sigil), _, (.content spelling.kind.sigil _, _), _,
    (.closeSigil spelling.kind.sigil, _), _] _ _
  rw [hsigil] at hcloseSigil ⊢
  exact .cons (Pattern.match?_optionalSigil hcontains _) <|
    .cons (Pattern.match?_padding (hpadding _) (hname _)) <|
    .cons (Pattern.match?_name hfree h.name (h.head?_behind_name rest)) <|
    .cons (Pattern.match?_padding (hpadding _) (h.head?_behind_padding rest)) <|
    .cons hcloseSigil <| .cons (Pattern.match?_literal _ _) <| .nil rest

end Spelling

/-! ## A tag at the front -/

namespace Lexer

variable {delimiters : Delimiters} {start : Cursor}

/-- **A step at a tag**, with nothing in front of it: the tag takes its line, or it does not. -/
theorem next_of_reads {tag : Tag} {rest : Chars} (hjust : tag.JustRead delimiters start)
    (hreads : Reads tag.pieces start.ahead rest) (hkeeps : tag.kind? ≠ some .delimiters) :
    ∃ after, after.ahead = rest
      ∧ ((∃ ending, Pattern.endOfLine.match? rest = some ending
          ∧ next delimiters start
            = .ok ⟨[.tag (tag.alone [] ending)], delimiters, after.advance ending.length⟩)
        ∨ (start.atLineStart = true → tag.kind?.any TagKind.standsAlone = true →
            Pattern.endOfLine.match? rest = none)
          ∧ next delimiters start = .ok ⟨[.tag tag], delimiters, after⟩) := by
  obtain ⟨after, hread, -, rfl⟩ := readTag_of_reads hjust hreads
  have hfront : delimiters.opening.text.isPrefixOf start.ahead = true := by
    obtain ⟨hahead, -, hopen, -⟩ := readTag_ahead hread
    rw [List.isPrefixOf_iff_prefix, hahead, ← hopen]
    simp only [Tag.core, List.append_assoc]
    exact List.prefix_append _ _
  have hopening : Opening delimiters.opening.text start.ahead [] [] start.ahead :=
    ⟨rfl, offsetOf?_of_isPrefixOf hfront, fun c hc => absurd hc List.not_mem_nil, by rintro c ⟨⟩⟩
  have hafter := delimitersAfter_of_ne delimiters start hkeeps
  have hnext : next delimiters start
      = .ok ⟨(settle start.atLineStart [] start.position tag after).blank
          ++ [.tag (settle start.atLineStart [] start.position tag after).tag], delimiters,
        (settle start.atLineStart [] start.position tag after).cursor⟩ := by
    rw [next_of_opening hopening]
    unfold tagStep
    simp only [List.length_nil, Nat.add_zero, Cursor.advance_zero, hread, hafter, bind, Except.bind]
    rfl
  refine ⟨after, rfl, ?_⟩
  rcases settle_cases start.atLineStart [] start.position tag after with
    ⟨ending, -, -, hmatch, hsettled⟩ | ⟨hinline, hsettled⟩
  · rw [hsettled] at hnext
    exact .inl ⟨ending, hmatch, hnext⟩
  · rw [hsettled] at hnext
    exact .inr ⟨hinline, hnext⟩

/-- A step that leaves nothing ahead gives all tokens of the template. -/
theorem tokenize_of_next {source : Chars} {step : Step} (hne : source ≠ [])
    (h : next .standard (.start source) = .ok step) (hend : step.cursor.ahead = []) :
    tokenize source = .ok step.tokens := by
  have hne' : (Cursor.start source).ahead ≠ [] := hne
  rw [tokenize_eq_run, run_of_next hne' h, run_nil _ hend]
  exact congrArg Except.ok (List.append_nil _)

end Lexer

namespace Spelling

variable {spelling : Spelling}

/-- **A tag is read as it is spelled**, alone in a template or with the end of its line. -/
theorem Fits.tokenize (h : spelling.Fits) {rest : Chars}
    (hrest : rest = [] ∨ rest = ['\n'] ∧ spelling.kind.standsAlone = true) :
    ∃ tag, Mustache.tokenize (spelling.written ++ rest) = .ok [.tag tag]
      ∧ tag.kind? = some spelling.kind ∧ tag.content = spelling.name
      ∧ tag.closeSigil = spelling.closeSigil ∧ tag.spaceBefore = [] := by
  have hne : spelling.written ++ rest ≠ [] := by
    unfold written
    simp only [List.append_assoc]
    exact List.append_ne_nil_of_left_ne_nil Delimiters.standard.opening.nonempty _
  have hkeeps : spelling.tag.kind? ≠ some .delimiters := by
    rw [spelling.kind?_tag]
    intro hkind
    have hmarks := h.kind
    rw [Option.some.inj hkind] at hmarks
    cases hmarks
  have hreads : Reads spelling.tag.pieces (Cursor.start (spelling.written ++ rest)).ahead rest :=
    h.reads rest
  obtain ⟨after, hafter, ⟨ending, hmatch, hnext⟩ | ⟨hinline, hnext⟩⟩ :=
    Lexer.next_of_reads ⟨rfl, rfl, rfl, rfl, rfl, rfl⟩ hreads hkeeps
  · refine ⟨spelling.tag.alone [] ending, Lexer.tokenize_of_next hne hnext ?_,
      spelling.kind?_tag, rfl, rfl, rfl⟩
    show after.ahead.drop ending.length = []
    rw [hafter]
    rcases hrest with rfl | ⟨rfl, -⟩ <;> cases hmatch <;> rfl
  · refine ⟨spelling.tag, Lexer.tokenize_of_next hne hnext ?_, spelling.kind?_tag, rfl, rfl, rfl⟩
    rcases hrest with rfl | ⟨rfl, hstands⟩
    · exact hafter
    · have hany : spelling.tag.kind?.any TagKind.standsAlone = true := by
        rw [spelling.kind?_tag]
        exact hstands
      cases hinline rfl hany

/-- **A tag is read as it is spelled, wherever it stands**, as long as the delimiters are the
standard ones. -/
theorem Fits.readTag (h : spelling.Fits) {start : Cursor} {rest : Chars}
    (hahead : start.ahead = spelling.written ++ rest) :
    ∃ tag after, Lexer.readTag .standard start = .ok (tag, after) ∧ after.ahead = rest
      ∧ tag.kind? = some spelling.kind ∧ tag.content = spelling.name
      ∧ tag.closeSigil = spelling.closeSigil := by
  have hjust : Tag.JustRead .standard start { spelling.tag with offset := start.position } :=
    ⟨rfl, rfl, rfl, rfl, rfl, rfl⟩
  have hreads : Reads spelling.tag.pieces start.ahead rest := hahead ▸ h.reads rest
  obtain ⟨after, hread, -, hafter⟩ := Lexer.readTag_of_reads hjust hreads
  exact ⟨_, after, hread, hafter, spelling.kind?_tag, rfl, rfl⟩

end Spelling

/-! ## Blocks -/

/-- The event of a tag that opens a block. -/
theorem Tag.event?_of_opening {tag : Tag} {inverted : Bool}
    (h : tag.kind? = some (if inverted then .inverted else .opening)) :
    tag.event? = some (.opening tag.content inverted) := by
  unfold event?
  rw [h]
  cases inverted <;> rfl

/-- The event of a tag that closes one. -/
theorem Tag.event?_of_closing {tag : Tag} (h : tag.kind? = some .closing) :
    tag.event? = some (.closing tag.content) := by
  unfold event?
  rw [h]

/-- **Tokens between two tags that match** are read as a block. -/
theorem Document.ofTokens_block {first last : Tag} {inverted : Bool} {inner : List Token}
    {source : Chars} {document : Document}
    (hfirst : first.kind? = some (if inverted then .inverted else .opening))
    (hlast : last.kind? = some .closing) (hname : last.content = first.content)
    (hknown : ∀ token ∈ inner, token.IsKnown) (h : ofTokens inner source = .ok document) :
    ofTokens (.tag first :: (inner ++ [.tag last])) source
      = .ok ⟨[.block first.content inverted document.children]⟩ := by
  obtain ⟨hlinear, hflat⟩ := (ofTokens_eq_ok_iff hknown).mp h
  have hall : ∀ token ∈ Token.tag first :: (inner ++ [.tag last]), token.IsKnown := by
    intro token hmem
    rcases List.mem_cons.mp hmem with rfl | hmem
    · show first.kind?.isSome = true
      rw [hfirst]
      rfl
    · rcases List.mem_append.mp hmem with hmem | hmem
      · exact hknown token hmem
      · rw [List.mem_singleton.mp hmem]
        show last.kind?.isSome = true
        rw [hlast]
        rfl
  refine (ofTokens_eq_ok_iff hall).mpr ⟨?_, hflat, trivial⟩
  have hlastEvents : Token.events [.tag last] = [.closing first.content] := by
    rw [Token.events_tag_of_some (Tag.event?_of_closing hlast), hname]
    rfl
  rw [Token.events_tag_of_some (Tag.event?_of_opening hfirst), Token.events_append, hlastEvents,
    ← hlinear]
  show [_] ++ _ ++ [_] ++ [] = _
  rw [List.append_nil, List.append_assoc]
  rfl

/-- **The events of tokens joined** are those of both, where no plain text meets plain text. -/
theorem Token.Joined.events_eq {left right joined : List Token} (h : Joined left right joined)
    (hedge : (∀ text offset, left.getLast? ≠ some (.text text offset))
      ∨ ∀ text, (events right).head? ≠ some (.text text)) :
    events joined = events left ++ events right := by
  obtain ⟨init, rest, before, after, offset, offset', rfl, rfl, rfl⟩ := h
  have hnil : before = [] ∨ after = [] := by
    by_contra hboth
    rw [not_or] at hboth
    rcases hedge with hleft | hright
    · refine hleft before offset ?_
      rw [ofText, if_neg hboth.1, List.getLast?_append]
      rfl
    · refine hright after ?_
      rw [events_append, events_ofText, Event.ofText, if_neg hboth.2]
      rfl
  simp only [events_append, events_ofText]
  rcases hnil with rfl | rfl
  · simp [Event.ofText]
  · simp [Event.ofText]

namespace Spelling

/-- **Tags spelled in any way open and close a block.** -/
theorem Fits.parse_block {opening closing : Spelling} (hopening : opening.Fits)
    (hclosing : closing.Fits) {inverted : Bool}
    (hkind : opening.kind = if inverted then .inverted else .opening)
    (hcloses : closing.kind = .closing) (hname : closing.name = opening.name)
    {body : Chars} {document : Document} (hbody : Document.parse body = .ok document)
    (hline : lineStartAfter true body = true) (hkeeps : KeepsDelimiters body) :
    Document.parse (opening.written ++ ['\n'] ++ (body ++ closing.written))
      = .ok ⟨[.block opening.name inverted document.children]⟩ := by
  have hstands : opening.kind.standsAlone = true := by
    rw [hkind]
    cases inverted <;> rfl
  obtain ⟨first, hfirst, hfirstKind, hfirstName, -, -⟩ := hopening.tokenize (.inr ⟨rfl, hstands⟩)
  obtain ⟨last, hlast, hlastKind, hlastName, -, -⟩ := hclosing.tokenize (.inl rfl)
  rw [List.append_nil] at hlast
  obtain ⟨inner, hinner, hlinear, hflat⟩ := Document.parse_eq_ok_iff.mp hbody
  have hevent : Token.events [.tag last] = [.closing opening.name] := by
    have hlastEvent := Tag.event?_of_closing (hlastKind.trans (congrArg some hcloses))
    rw [Token.events_tag_of_some hlastEvent, hlastName, hname]
    rfl
  have hevent' : Token.events [.tag first] = [.opening opening.name inverted] := by
    have hfirstEvent := Tag.event?_of_opening (hfirstKind.trans (congrArg some hkind))
    rw [Token.events_tag_of_some hfirstEvent, hfirstName]
    rfl
  -- the body with its closing tag, and then the opening tag in front of both
  obtain ⟨tail, others, htail, hothers, hjoined⟩ := tokenize_append hline hkeeps hinner hlast
  have htailEvents := hjoined.events_eq (.inr fun text h => by rw [hothers, hevent] at h; cases h)
  have hfirstKeeps : KeepsDelimiters (opening.written ++ ['\n']) := by
    intro tokens htokens tag htag
    rw [hfirst] at htokens
    cases htokens
    cases List.mem_singleton.mp htag
    rw [hfirstKind, hkind]
    cases inverted <;> decide
  obtain ⟨whole, others', hwhole, hothers', hjoined'⟩ :=
    tokenize_append (lineStartAfter_concat true opening.written '\n') hfirstKeeps hfirst htail
  have hwholeEvents := hjoined'.events_eq (.inl fun text offset h => by cases h)
  refine Document.parse_eq_ok_iff.mpr ⟨whole, hwhole, ?_, hflat, trivial⟩
  rw [hwholeEvents, hevent', hothers', htailEvents, hothers, hevent, ← hlinear, Node.linearAll,
    Node.linear, Node.linearAll, List.append_nil]
  rfl

end Spelling

/-- **A tag is read as it is spelled**: alone in a template as the one tag of its kind and its name,
and with the same kind and name wherever else it stands. The closing sigil is no part of the name.
So tags spelled in any way open and close a block: whatever tokens stand between them, and, in a
template, around a body on lines of its own. -/
theorem tokenize_spelling {spelling : Spelling} (h : spelling.Fits) :
    (∃ tag, tokenize spelling.written = .ok [.tag tag] ∧ tag.kind? = some spelling.kind
        ∧ tag.content = spelling.name ∧ tag.closeSigil = spelling.closeSigil)
      ∧ (∀ (start : Cursor) (rest : Chars), start.ahead = spelling.written ++ rest →
        ∃ tag after, Lexer.readTag .standard start = .ok (tag, after) ∧ after.ahead = rest
          ∧ tag.kind? = some spelling.kind ∧ tag.content = spelling.name
          ∧ tag.closeSigil = spelling.closeSigil)
      ∧ ∀ (closing : Spelling) (inverted : Bool),
        closing.Fits → spelling.kind = (if inverted then .inverted else .opening) →
        closing.kind = .closing → closing.name = spelling.name →
        (∀ (first last : Tag) (inner : List Token) (source : Chars) (document : Document),
          first.kind? = some spelling.kind → first.content = spelling.name →
          last.kind? = some closing.kind → last.content = closing.name →
          (∀ token ∈ inner, token.IsKnown) → Document.ofTokens inner source = .ok document →
          Document.ofTokens (.tag first :: (inner ++ [.tag last])) source
            = .ok ⟨[.block spelling.name inverted document.children]⟩)
        ∧ ∀ (body : Chars) (document : Document),
          Document.parse body = .ok document → body = [] ∨ body.getLast? = some '\n' →
          KeepsDelimiters body →
          Document.parse (spelling.written ++ '\n' :: (body ++ closing.written))
            = .ok ⟨[.block spelling.name inverted document.children]⟩ := by
  refine ⟨?_, fun start rest => h.readTag, ?_⟩
  · obtain ⟨tag, htokens, hkind, hname, hclose, -⟩ := h.tokenize (.inl rfl)
    rw [List.append_nil] at htokens
    exact ⟨tag, htokens, hkind, hname, hclose⟩
  · intro closing inverted hclosing hkind hcloses hname
    refine ⟨?_, fun body document hbody hends hkeeps => ?_⟩
    · intro first last inner source document hfirst hfirstName hlast hlastName hknown hinner
      rw [← hfirstName]
      refine Document.ofTokens_block (hfirst.trans (congrArg some hkind))
        (hlast.trans (congrArg some hcloses)) ?_ hknown hinner
      rw [hlastName, hname, hfirstName]
    · have hline : lineStartAfter true body = true := by
        rcases hends with rfl | hlast
        · rfl
        · obtain ⟨init, rfl⟩ := List.getLast?_eq_some_iff.mp hlast
          exact lineStartAfter_concat true init '\n'
      have hparse := h.parse_block hclosing hkind hcloses hname hbody hline hkeeps
      rwa [List.append_assoc] at hparse

/-- A block that is opened and closed by tags with closing sigils, around a line of text. -/
theorem tokenize_spelling_closed_block :
    let opening : Spelling := ⟨.inverted, 0, ['a', '!'], 1, true⟩
    let closing : Spelling := ⟨.closing, 1, ['a', '!'], 2, true⟩
    opening.written = "\x7b\x7b^a! ^\x7d\x7d".toList
      ∧ closing.written = "\x7b\x7b/ a!  /\x7d\x7d".toList
      ∧ opening.Fits ∧ closing.Fits
      ∧ (∃ tag, tokenize opening.written = .ok [.tag tag] ∧ tag.kind? = some .inverted
        ∧ tag.content = ['a', '!'] ∧ tag.closeSigil = ['^'])
      ∧ Document.parse "\x7b\x7b^a! ^\x7d\x7d\nx\n\x7b\x7b/ a!  /\x7d\x7d".toList
        = .ok ⟨[.block ['a', '!'] true [.text ['x', '\n']]]⟩ := by
  intro opening closing
  have hname : ∀ c ∈ ['a', '!'], isName c = true := List.all_eq_true.mp (by decide)
  have hopening : opening.Fits := ⟨rfl, by decide, hname, by decide, by decide⟩
  have hclosing : closing.Fits := ⟨rfl, by decide, hname, by decide, by decide⟩
  have htokens : tokenize ['x', '\n'] = .ok [.text ['x', '\n'] 0] := by
    rw [tokenize_eq_runWithin]
    decide +kernel
  have hbody : Document.parse ['x', '\n'] = .ok ⟨[.text ['x', '\n']]⟩ :=
    Document.parse_eq_ok_iff.mpr ⟨_, htokens, rfl, trivial, trivial⟩
  have hkeeps : KeepsDelimiters ['x', '\n'] := by
    intro tokens h tag htag
    rw [htokens] at h
    cases h
    cases htag
  obtain ⟨htag, -, hblock⟩ := tokenize_spelling hopening
  refine ⟨by decide, by decide, hopening, hclosing, htag, ?_⟩
  exact (hblock closing true hclosing rfl rfl rfl).2 _ _ hbody (.inr rfl) hkeeps

/-- **A slash right behind the name is part of it**, not a closing sigil. -/
theorem tokenize_slash :
    tokenize "\x7b\x7b/a/\x7d\x7d".toList = .ok
      [.tag ⟨['{', '{'], ['/'], [], ['a', '/'], [], [], ['}', '}'], [], [], true, 0⟩] := by
  rw [tokenize_eq_runWithin]
  decide +kernel

end Mustache
