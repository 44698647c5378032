import Mustache.Proofs.Lexer.Parallel
import Mustache.Proofs.Node.Linear

/-!
# Comments say nothing

What a comment says is no matter to anything but the comment. Between its sigil and its closing
delimiter any other text may stand, with line feeds, sigils and opening delimiters in it, as long as
the closing delimiter is found for the first time where it stands (`tokenize_replace_comment`). The
tokens before the comment are the same, those behind it the same but for the characters they have
moved, and the comment itself keeps its line. So the document is the same, as a comment leaves no
node.

The proof runs the lexer on both templates side by side, up to the comment and behind it
(`Lexer.Parallel`). Only the comment itself is read anew, from its other text
(`Lexer.exists_reads_of_first`).
-/

namespace Mustache

open Text Chars

namespace Tag

/-- Where the inside of the tag begins, behind its sigil. -/
def innerPlace (tag : Tag) : Nat := tag.offset.toNat + (tag.openTag ++ tag.sigil).length

/-- **The inside of the tag**: all that stands between its sigil and its closing delimiter. -/
def inner (tag : Tag) : Chars :=
  tag.paddingBefore ++ tag.content ++ tag.paddingAfter ++ tag.closeSigil

/-- The tag with another inside, which has no padding at its end. -/
def withInner (padding content closeSigil : Chars) (tag : Tag) : Tag :=
  { tag with paddingBefore := padding, content := content, paddingAfter := []
             closeSigil := closeSigil }

theorem keepsLine_withInner (padding content closeSigil : Chars) :
    KeepsLine (withInner padding content closeSigil) :=
  ⟨fun _ => rfl, fun _ _ _ => rfl⟩

theorem core_eq (tag : Tag) :
    tag.core = tag.openTag ++ tag.sigil ++ (tag.inner ++ tag.closeTag) := by
  simp only [core, inner, List.append_assoc]

theorem inner_withInner (padding content closeSigil : Chars) (tag : Tag) :
    (tag.withInner padding content closeSigil).inner = padding ++ content ++ closeSigil := by
  simp only [inner, withInner, List.append_nil]

theorem closePlace_eq (tag : Tag) : tag.closePlace = tag.innerPlace + tag.inner.length := by
  simp only [closePlace, contentPlace, innerPlace, inner, List.length_append]
  omega

end Tag

namespace Lexer

variable {delimiters : Delimiters} {start other : Cursor} {text indent sigil : Chars}

/-! ## Free content with another text -/

/-- A text is padding and then something else. -/
theorem exists_padding (text : Chars) :
    ∃ padding rest, text = padding ++ rest ∧ (∀ c ∈ padding, c = ' ')
      ∧ ∀ c ∈ rest.head?, c ≠ ' ' := by
  refine ⟨text.takeWhile (· = ' '), text.dropWhile (· = ' '),
    List.takeWhile_append_dropWhile.symm, fun c hc => ?_, fun c hc => ?_⟩
  · exact of_decide_eq_true (List.mem_takeWhile_imp (p := (· = ' ')) hc)
  · have hfirst := List.head?_dropWhile_not (· = ' ') text
    rw [hc] at hfirst
    exact of_decide_eq_false hfirst

/-- **The closing delimiter that is found first** is the end that is read: the free content and the
closing sigil are all that stands before it. -/
theorem exists_readsEnd_of_first {close word behind : Chars} (hsigil : isFreeform sigil = true)
    (hclose : Solid close) (hplain : ¬ sigil <+: close)
    (hfirst : offsetOf? close (word ++ (close ++ behind)) = some word.length) :
    ∃ content closeSigil, word = content ++ closeSigil
      ∧ Pattern.freeContent sigil close (word ++ (close ++ behind)) = some content
      ∧ Pattern.ReadsEnd sigil close (closeSigil ++ (close ++ behind)) closeSigil behind := by
  obtain ⟨content, hcontent⟩ := Pattern.exists_freeContent_iff.mpr
    ⟨word.length, (offsetOf?_eq_some_iff.mp hfirst).1⟩
  obtain ⟨rest, closeSigil, behind', hsplit, hend, hfound⟩ :=
    Pattern.exists_readsEnd hsigil hclose hplain hcontent
  obtain rfl := hend.rest_eq
  have hlength : (content ++ closeSigil).length = word.length := by
    rw [hfirst] at hfound
    rw [List.length_append]
    exact (Option.some.inj hfound).symm
  have hwhole := hsplit.symm
  rw [← List.append_assoc] at hwhole
  obtain ⟨hword, hrest⟩ := List.append_inj hwhole hlength
  obtain rfl := List.append_cancel_left hrest
  exact ⟨content, closeSigil, hword.symm, hcontent, hend⟩

/-- **Any text may stand in a tag with free content**, when the closing delimiter is found first
behind it, and does not begin with the sigil. -/
theorem exists_reads_of_first {inner behind : Chars} (hsigil : isFreeform sigil = true)
    (hplain : ¬ sigil <+: delimiters.closing.text)
    (hfirst : offsetOf? delimiters.closing.text (inner ++ delimiters.closing.text)
      = some inner.length)
    (hopening : Opening delimiters.opening.text start.ahead text indent
      (delimiters.opening.text ++ (sigil ++ (inner ++ (delimiters.closing.text ++ behind))))) :
    ∃ padding content closeSigil, inner = padding ++ content ++ closeSigil
      ∧ ∀ tag : Tag, tag.openTag = delimiters.opening.text →
        tag.closeTag = delimiters.closing.text → tag.sigil = sigil →
        Reads (tag.withInner padding content closeSigil).pieces
          (start.advance (text.length + indent.length)).ahead behind := by
  obtain ⟨padding, word, hinner, hpadding, hword⟩ := exists_padding inner
  have hplace := offsetOf?_append hfirst behind
  rw [hinner, List.append_assoc, List.append_assoc, List.length_append] at hplace
  obtain ⟨content, closeSigil, hsplit, hcontent, hend⟩ :=
    exists_readsEnd_of_first hsigil delimiters.closing.solid hplain (offsetOf?_of_append hplace)
  -- behind the padding is no more of it, be that the text or the delimiter
  have hbody : ∀ c ∈ (word ++ (delimiters.closing.text ++ behind)).head?, c ≠ ' ' := by
    cases word with
    | nil =>
      obtain ⟨c, others, hc, hspace⟩ := delimiters.closing.solid.exists_cons
      rw [hc]
      rintro d ⟨⟩ rfl
      cases hspace
    | cons d word =>
      rintro c ⟨⟩
      exact hword d rfl
  rw [hinner, List.append_assoc padding] at hopening
  have hfree : FreeOpening delimiters start text indent sigil padding
      (word ++ (delimiters.closing.text ++ behind)) := ⟨hopening, hsigil, hpadding, hbody⟩
  have hrest : word ++ (delimiters.closing.text ++ behind)
      = content ++ (closeSigil ++ (delimiters.closing.text ++ behind)) := by
    rw [hsplit, List.append_assoc]
  refine ⟨padding, content, closeSigil, ?_, fun tag hopen hclose htag => ?_⟩
  · rw [hinner, hsplit, List.append_assoc]
  · refine (hfree.reads_iff hrest hcontent ?_ ?_).mpr ⟨htag, rfl, rfl, rfl, hend⟩
    · exact hopen
    · exact hclose

/-! ## The comment in both templates -/

namespace TagStep

variable {tag : Tag} {step : Step}

/-- The text ahead, around the inside of the tag. -/
theorem ahead_eq_around (h : TagStep delimiters start text indent tag step) :
    start.ahead = (text ++ (indent ++ (tag.openTag ++ tag.sigil)))
      ++ (tag.inner ++ (tag.closeTag ++ (tag.spaceAfter ++ step.cursor.ahead))) := by
  rw [h.opening.ahead_eq, Tag.core_eq]
  simp only [List.append_assoc]

/-- The template, around the inside of the tag. -/
theorem source_eq_around (h : TagStep delimiters start text indent tag step) :
    start.source = (start.before ++ (text ++ (indent ++ (tag.openTag ++ tag.sigil))))
      ++ (tag.inner ++ (tag.closeTag ++ (tag.spaceAfter ++ step.cursor.ahead))) := by
  rw [← start.before_append_ahead, h.ahead_eq_around, List.append_assoc start.before]

theorem innerPlace (h : TagStep delimiters start text indent tag step) :
    tag.innerPlace = (start.before ++ (text ++ (indent ++ (tag.openTag ++ tag.sigil)))).length := by
  unfold Tag.innerPlace
  rw [h.offset_toNat]
  simp only [List.length_append]
  omega

theorem take_innerPlace (h : TagStep delimiters start text indent tag step) :
    start.source.take tag.innerPlace
      = start.before ++ (text ++ (indent ++ (tag.openTag ++ tag.sigil))) := by
  rw [h.innerPlace, h.source_eq_around, List.take_left]

theorem drop_closePlace (h : TagStep delimiters start text indent tag step) :
    start.source.drop tag.closePlace
      = tag.closeTag ++ (tag.spaceAfter ++ step.cursor.ahead) := by
  rw [Tag.closePlace_eq, h.innerPlace, h.source_eq_around, ← List.drop_drop, List.drop_left,
    List.drop_left]

/-- Up to the inside of a tag there is more than white space. -/
theorem exists_solid (h : TagStep delimiters start text indent tag step) :
    ∃ c ∈ text ++ (indent ++ (tag.openTag ++ tag.sigil)), isSpace c = false := by
  obtain ⟨c, others, hopen, hc⟩ := delimiters.opening.solid.exists_cons
  refine ⟨c, ?_, hc⟩
  rw [h.openTag, hopen]
  simp

end TagStep

/-- No line begins behind a tag. -/
theorem readTag_atLineStart {tag : Tag} {after : Cursor}
    (h : readTag delimiters start = .ok (tag, after)) : after.atLineStart = false := by
  have hclose := (reads_of_readTag h).1.closeTag
  have hahead := (readTag_ahead h).1
  rw [readTag_advance h, Cursor.atLineStart_advance_of_append hahead, Tag.core_eq,
    ← List.append_assoc, lineStartAfter_append, hclose]
  exact lineStartAfter_solid delimiters.closing.solid _

/-- **Behind two tags** with the same rest ahead, cursors stand side by side. -/
theorem parallel_of_readTag {tag tag' : Tag} {after after' : Cursor}
    (h : readTag delimiters start = .ok (tag, after))
    (h' : readTag delimiters other = .ok (tag', after')) (hahead : after'.ahead = after.ahead)
    {n : Int} (hposition : (other.position + tag'.core.length : Int)
      = start.position + tag.core.length + n) :
    Parallel n after.ahead [] [] after after' := by
  refine ⟨(List.append_nil _).symm, hahead.trans (List.append_nil _).symm,
    (readTag_atLineStart h').trans (readTag_atLineStart h).symm, ?_⟩
  rw [readTag_advance h, readTag_advance h', Cursor.position_advance_of_append (readTag_ahead h).1,
    Cursor.position_advance_of_append (readTag_ahead h').1]
  omega

section Beside

variable {tag : Tag} {step : Step} {said : Chars}

/-- The tag opens in both templates. -/
theorem TagStep.opening_other (h : TagStep delimiters start text indent tag step)
    (hparallel : Parallel 0 (text ++ (indent ++ (tag.openTag ++ tag.sigil)))
      (tag.inner ++ (tag.closeTag ++ (tag.spaceAfter ++ step.cursor.ahead)))
      (said ++ (tag.closeTag ++ (tag.spaceAfter ++ step.cursor.ahead))) start other) :
    Opening delimiters.opening.text other.ahead text indent (delimiters.opening.text
      ++ (tag.sigil ++ (said ++ (delimiters.closing.text
        ++ (tag.spaceAfter ++ step.cursor.ahead))))) := by
  have hopening := h.opening
  rw [Tag.core_eq, List.append_assoc, List.append_assoc tag.inner, hparallel.ahead] at hopening
  have hneedle : delimiters.opening.text <+: tag.openTag ++ tag.sigil := by
    rw [h.openTag]
    exact List.prefix_append _ _
  have hother := hopening.change_tail hneedle
    (said ++ (tag.closeTag ++ (tag.spaceAfter ++ step.cursor.ahead)))
  rwa [← hparallel.ahead_other, List.append_assoc, h.openTag, h.closeTag] at hother

/-- **The comment is read from the other text**, and behind it both templates go on side by side. -/
theorem exists_readTag_comment {after : Cursor}
    (h : TagStep delimiters start text indent tag step)
    (hread : readTag delimiters (start.advance (text.length + indent.length))
      = .ok (tag.inline, after))
    (hafter : after.ahead = tag.spaceAfter ++ step.cursor.ahead)
    (hcomment : tag.kind? = some .comment) (hplain : ¬ ['!'] <+: tag.closeTag)
    (hfirst : FirstFrom tag.closeTag (said ++ tag.closeTag) 0 said.length)
    (hparallel : Parallel 0 (text ++ (indent ++ (tag.openTag ++ tag.sigil)))
      (tag.inner ++ (tag.closeTag ++ (tag.spaceAfter ++ step.cursor.ahead)))
      (said ++ (tag.closeTag ++ (tag.spaceAfter ++ step.cursor.ahead))) start other) :
    ∃ padding content closeSigil after', said = padding ++ content ++ closeSigil
      ∧ readTag delimiters (other.advance (text.length + indent.length))
        = .ok (tag.inline.withInner padding content closeSigil, after')
      ∧ Parallel (said.length - tag.inner.length) after.ahead [] [] after after' := by
  have hsigil : tag.sigil = ['!'] := Tag.kind?_eq_some_iff.mp hcomment
  have hfound := firstFrom_zero_iff.mp hfirst
  have hopening := h.opening_other hparallel
  rw [h.closeTag] at hfound hplain
  rw [hsigil] at hopening
  obtain ⟨padding, content, closeSigil, hsaid, hreads⟩ :=
    exists_reads_of_first rfl hplain hfound hopening
  -- it opens at the same offset
  rw [← List.append_assoc] at hparallel
  have hline := hparallel.advance.position
  rw [List.length_append, Int.add_zero] at hline
  have hjust := (reads_of_readTag hread).1
  have hjust' : (tag.inline.withInner padding content closeSigil).JustRead delimiters
      (other.advance (text.length + indent.length)) :=
    { hjust with offset := hjust.offset.trans hline.symm }
  obtain ⟨after', hread', -, hahead⟩ := readTag_of_reads hjust'
    (hreads tag.inline hjust.openTag hjust.closeTag hsigil)
  refine ⟨padding, content, closeSigil, after', hsaid, hread',
    parallel_of_readTag hread hread' (hahead.trans hafter.symm) ?_⟩
  rw [hline, Tag.core_eq, Tag.core_eq, Tag.inner_withInner, ← hsaid]
  simp only [List.length_append, Tag.inline, Tag.withInner, Tag.inner]
  omega

/-- **A comment with another text is read alike**: the step gives the same plain text, the same
delimiters, and the same comment but for its inside, and what is ahead behind it is the same. -/
theorem next_comment {plain : List Token}
    (hnext : next delimiters start = .ok step) (h : TagStep delimiters start text indent tag step)
    (htokens : step.tokens = plain ++ [.tag tag]) (hcomment : tag.kind? = some .comment)
    (hplain : ¬ ['!'] <+: tag.closeTag)
    (hfirst : FirstFrom tag.closeTag (said ++ tag.closeTag) 0 said.length)
    (hparallel : Parallel 0 (text ++ (indent ++ (tag.openTag ++ tag.sigil)))
      (tag.inner ++ (tag.closeTag ++ (tag.spaceAfter ++ step.cursor.ahead)))
      (said ++ (tag.closeTag ++ (tag.spaceAfter ++ step.cursor.ahead))) start other) :
    ∃ padding content closeSigil cursor, said = padding ++ content ++ closeSigil
      ∧ next delimiters other = .ok ⟨plain ++ [.tag (tag.withInner padding content closeSigil)],
        step.delimiters, cursor⟩
      ∧ Parallel (said.length - tag.inner.length) step.cursor.ahead [] [] step.cursor cursor := by
  rw [next_of_opening h.opening] at hnext
  obtain ⟨plain', tag', after, htokens', hread, hafter⟩ := exists_readTag_of_tagStep hnext
  obtain ⟨rfl, htag⟩ := List.append_inj' (htokens.symm.trans htokens') rfl
  cases htag
  obtain ⟨padding, content, closeSigil, after', hsaid, hread', hbehind⟩ :=
    exists_readTag_comment h hread hafter hcomment hplain hfirst hparallel
  have hkind : tag.inline.kind? ≠ some .delimiters := by
    show tag.kind? ≠ _
    rw [hcomment]
    decide
  have hsame : ∀ defined, delimitersAfter delimiters start tag.inline = .ok defined →
      delimitersAfter delimiters other (tag.inline.withInner padding content closeSigil)
        = .ok defined := by
    intro defined hdefined
    rw [← hdefined, delimitersAfter_of_ne delimiters start hkind]
    exact delimitersAfter_of_ne delimiters other hkind
  obtain ⟨plain', settled, cursor, htokens', hstep', hcursor⟩ := tagStep_parallel
    (Tag.keepsLine_withInner padding content closeSigil) hparallel hread hread' hbehind hsame
    hnext (List.append_nil _).symm (.inl rfl)
  obtain ⟨rfl, htag⟩ := List.append_inj' (htokens.symm.trans htokens') rfl
  cases htag
  refine ⟨padding, content, closeSigil, cursor, hsaid, ?_, hcursor⟩
  rw [next_of_opening (h.opening_other hparallel), hstep', Token.map_shift_zero]

end Beside

end Lexer

open Lexer

namespace Token

/-- Where a token stands is no matter to the reader of a tree. -/
theorem events_map_shift (n : Int) (tokens : List Token) :
    events (tokens.map (shift n)) = events tokens := by
  unfold events
  rw [List.filterMap_map]
  congr 1
  funext token
  cases token <;> rfl

/-- A comment is no event. -/
theorem events_tag_comment {tag : Tag} (h : tag.kind? = some .comment) (tokens : List Token) :
    events (.tag tag :: tokens) = events tokens := by
  refine events_tag_of_none ?_ tokens
  unfold Tag.event?
  rw [h]

end Token

/-- **Templates with the same events** have the same document. -/
theorem Document.parse_congr {left right : Chars} {tokens tokens' : List Token}
    (hleft : tokenize left = .ok tokens) (hright : tokenize right = .ok tokens')
    (hevents : Token.events tokens = Token.events tokens') (document : Document) :
    parse left = .ok document ↔ parse right = .ok document := by
  rw [parse_eq_ok_iff, parse_eq_ok_iff, hleft, hright]
  simp only [Except.ok.injEq, exists_eq_left', hevents]

/-- **Comments are inert.** Another text may stand between the sigil of a comment and its closing
delimiter, when that delimiter does not begin with the sigil, and is found first where it stands.
The template is cut into as many tokens: the same in front of the comment, the same behind it but
for the characters they have moved, and the comment differs in its inside alone. So the template
has the same document. -/
theorem tokenize_replace_comment {source : Chars} {front back : List Token} {tag : Tag}
    (h : tokenize source = .ok (front ++ .tag tag :: back)) (hcomment : tag.kind? = some .comment)
    (hplain : ¬ ['!'] <+: tag.closeTag) {said : Chars}
    (hfirst : FirstFrom tag.closeTag (said ++ tag.closeTag) 0 said.length) :
    source = source.take tag.innerPlace ++ (tag.inner ++ source.drop tag.closePlace)
      ∧ ∃ padding content closeSigil, said = padding ++ content ++ closeSigil
        ∧ tokenize (source.take tag.innerPlace ++ (said ++ source.drop tag.closePlace))
          = .ok (front ++ .tag (tag.withInner padding content closeSigil)
              :: back.map (Token.shift (said.length - tag.inner.length)))
        ∧ ∀ document,
          Document.parse (source.take tag.innerPlace ++ (said ++ source.drop tag.closePlace))
              = .ok document
            ↔ Document.parse source = .ok document := by
  obtain ⟨delimiters, start, text, indent, step, hround⟩ := exists_tagRound h
  obtain ⟨rounds, tokens, plain, hrounds, rfl, htokens⟩ := hround.front
  have hread := hround.read
  have hsource := hread.source_eq_around
  rw [← hread.take_innerPlace, ← hread.drop_closePlace, hrounds.source_eq] at hsource
  refine ⟨hsource, ?_⟩
  rw [← hrounds.source_eq, hread.take_innerPlace, hread.drop_closePlace]
  -- both templates are cut side by side up to the comment
  obtain ⟨other, hrounds', hparallel⟩ := hrounds.parallel
    (hrounds.source_eq.symm.trans hread.source_eq_around) hread.ahead_eq_around
    (.inr hread.exists_solid)
  obtain ⟨padding, content, closeSigil, cursor, hsaid, hnext, hbehind⟩ :=
    next_comment hround.next hread htokens hcomment hplain hfirst hparallel
  have hne : other.ahead ≠ [] := by
    obtain ⟨c, hc, -⟩ := hread.exists_solid
    rw [hparallel.ahead_other]
    exact List.append_ne_nil_of_left_ne_nil (List.ne_nil_of_mem hc) _
  have hback := run_parallel hbehind hround.back
  have hreplaced : tokenize (start.before ++ (text ++ (indent ++ (tag.openTag ++ tag.sigil)))
      ++ (said ++ (tag.closeTag ++ (tag.spaceAfter ++ step.cursor.ahead))))
      = .ok (tokens ++ plain ++ .tag (tag.withInner padding content closeSigil)
        :: back.map (Token.shift (said.length - tag.inner.length))) := by
    rw [tokenize_eq_run, (hrounds'.more hne hnext).run_eq, hback]
    refine congrArg Except.ok ?_
    simp only [List.append_assoc, List.singleton_append]
  refine ⟨padding, content, closeSigil, hsaid, hreplaced, ?_⟩
  rw [hrounds.source_eq]
  have hcomment' : (tag.withInner padding content closeSigil).kind? = some .comment := hcomment
  refine Document.parse_congr hreplaced h ?_
  rw [Token.events_append (tokens ++ plain), Token.events_append (tokens ++ plain),
    Token.events_tag_comment hcomment', Token.events_tag_comment hcomment, Token.events_map_shift]

/-- A comment alone on its line is given a text with an opening delimiter, a line feed and its sigil
at the end; it stays alone on its line, and the name behind it moves by three characters. -/
theorem tokenize_replace_comment_two_lines :
    let source : Chars := "a\n \x7b\x7b! old \x7d\x7d\r\n\x7b\x7bb\x7d\x7d".toList
    let replaced : Chars := "a\n \x7b\x7b!  \x7b\x7b#x\n!\x7d\x7d\r\n\x7b\x7bb\x7d\x7d".toList
    let comment : Tag := ⟨['{', '{'], ['!'], [' '], "old ".toList, [], [], ['}', '}'], [' '],
      ['\r', '\n'], true, 3⟩
    let name (offset : Int) : Tag :=
      ⟨['{', '{'], [], [], ['b'], [], [], ['}', '}'], [], [], false, offset⟩
    tokenize source = .ok [.text ['a', '\n'] 0, .tag comment, .tag (name 15)]
      ∧ comment.kind? = some .comment ∧ ¬ ['!'] <+: comment.closeTag
      ∧ FirstFrom comment.closeTag ("  \x7b\x7b#x\n!".toList ++ comment.closeTag) 0 8
      ∧ (∃ padding content closeSigil, tokenize replaced
        = .ok [.text ['a', '\n'] 0, .tag (comment.withInner padding content closeSigil),
          .tag (name 18)])
      ∧ ∀ document, Document.parse replaced = .ok document
        ↔ Document.parse source = .ok document := by
  intro source replaced comment name
  have htokens : tokenize source
      = .ok ([.text ['a', '\n'] 0] ++ .tag comment :: [.tag (name 15)]) := by
    rw [tokenize_eq_runWithin]
    decide +kernel
  have hplain : ¬ ['!'] <+: comment.closeTag := by decide
  have hfirst : FirstFrom comment.closeTag ("  \x7b\x7b#x\n!".toList ++ comment.closeTag) 0 8 :=
    firstFrom_zero_iff.mpr rfl
  obtain ⟨-, padding, content, closeSigil, -, hreplaced, hdocument⟩ :=
    tokenize_replace_comment htokens rfl hplain hfirst
  exact ⟨htokens, rfl, hplain, hfirst, ⟨padding, content, closeSigil, hreplaced⟩, hdocument⟩

end Mustache
