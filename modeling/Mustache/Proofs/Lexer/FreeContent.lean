import Mustache.Proofs.Lexer.Pieces
import Mustache.Proofs.Lexer.TagStep

/-!
# The end of free content

The content of a comment or of a delimiter tag runs freely up to the end of the tag. The end is
sought first, as the closing delimiter with or without the sigil in front of it; then it is read, in
pieces that are never taken back. `Lexer.next_free` says when the two agree. The end is found
whenever the closing delimiter lies ahead, and the tag is closed there, at the first closing
delimiter, as long as that delimiter does not begin with the sigil.

One that does is taken apart: its first character is read as the closing sigil, and what is left is
no closing delimiter. Such a tag is closed only where the sigil stands once more in front of the
delimiter (`tokenize_unclosed`).
-/

namespace Mustache

open Text Chars

namespace Pattern

variable {closing close text taken : Chars}

theorem closes_eq_true_iff :
    closes closing close text = true ↔ close <+: text ∨ closing ++ close <+: text := by
  unfold closes
  rw [Bool.or_eq_true, List.isPrefixOf_iff_prefix, List.isPrefixOf_iff_prefix]

/-- **Free content is what stands before the first end of a tag.** -/
theorem not_closes_of_freeContent (h : freeContent closing close text = some taken) :
    ∀ n < taken.length, closes closing close (text.drop n) = false := by
  induction text generalizing taken with
  | nil =>
    simp only [freeContent] at h
    split at h <;> cases h
    exact fun n hn => absurd hn (Nat.not_lt_zero n)
  | cons c text ih =>
    by_cases hfront : closes closing close (c :: text) = true
    · rw [freeContent_of_closes hfront] at h
      cases h
      exact fun n hn => absurd hn (Nat.not_lt_zero n)
    · have hfront : closes closing close (c :: text) = false := Bool.eq_false_iff.mpr hfront
      rw [freeContent_cons hfront] at h
      obtain ⟨tail, htail, rfl⟩ := Option.map_eq_some_iff.mp h
      intro n hn
      cases n with
      | zero => exact hfront
      | succ n => exact ih htail n (Nat.lt_of_succ_lt_succ hn)

/-- Where no end of a tag is found, none stands. -/
theorem not_closes_of_freeContent_eq_none (h : freeContent closing close text = none) (n : Nat) :
    closes closing close (text.drop n) = false := by
  induction text generalizing n with
  | nil =>
    rw [List.drop_nil]
    refine Bool.eq_false_iff.mpr fun hfront => ?_
    rw [freeContent_of_closes hfront] at h
    cases h
  | cons c text ih =>
    have hfront : closes closing close (c :: text) = false := by
      refine Bool.eq_false_iff.mpr fun hfront => ?_
      rw [freeContent_of_closes hfront] at h
      cases h
    rw [freeContent_cons hfront, Option.map_eq_none_iff] at h
    cases n with
    | zero => exact hfront
    | succ n => exact ih h n

/-- **The end of a tag is found** just when the closing delimiter lies ahead. -/
theorem exists_freeContent_iff :
    (∃ taken, freeContent closing close text = some taken) ↔ ∃ n, close <+: text.drop n := by
  constructor
  · rintro ⟨taken, h⟩
    obtain ⟨rest, rfl, hends⟩ := closes_of_freeContent h
    rcases closes_eq_true_iff.mp hends with hclose | ⟨behind, rfl⟩
    · exact ⟨taken.length, by rwa [List.drop_left]⟩
    · refine ⟨(taken ++ closing).length, behind, ?_⟩
      rw [List.append_assoc, ← List.append_assoc, List.drop_left]
  · rintro ⟨n, hclose⟩
    cases h : freeContent closing close text with
    | some taken => exact ⟨taken, rfl⟩
    | none =>
      have hnone := not_closes_of_freeContent_eq_none h n
      rw [closes_eq_true_iff.mpr (.inl hclose)] at hnone
      cases hnone

/-! ## The closing sigil of free content -/

/-- A sigil of free content is one character, and closes as it opens. -/
theorem isFreeform_cases {sigil : Chars} (h : isFreeform sigil = true) :
    ∃ c, sigil = [c] ∧ (c = '!' ∨ c = '=') ∧ closingSigil sigil = sigil := by
  simp only [isFreeform, Bool.or_eq_true, decide_eq_true_eq] at h
  rcases h with rfl | rfl
  · exact ⟨'!', rfl, .inl rfl, by decide⟩
  · exact ⟨'=', rfl, .inr rfl, by decide⟩

/-- **Where the end of a tag is read** in pieces: behind the free content stand the closing sigil
that its pattern takes, and the closing delimiter. -/
structure ReadsEnd (sigil close rest closeSigil behind : Chars) : Prop where
  rest_eq : rest = closeSigil ++ (close ++ behind)
  closeSigil : (Pattern.closeSigil sigil).match? rest = some closeSigil

variable {sigil content : Chars}

theorem reads_end_iff {rest closeSigil behind : Chars} :
    Reads [(.closeSigil sigil, closeSigil), (.literal close, close)] rest behind
      ↔ ReadsEnd sigil close rest closeSigil behind := by
  constructor
  · intro h
    obtain _ | ⟨hsigil, h⟩ := h
    obtain _ | ⟨-, h⟩ := h
    cases h
    exact ⟨rfl, hsigil⟩
  · rintro ⟨rfl, hsigil⟩
    exact .cons hsigil <| .cons (match?_literal close behind) <| .nil behind

/-- **The end that is found is read**, and it is the first closing delimiter, when that delimiter
does not begin with the sigil. -/
theorem exists_readsEnd (hsigil : isFreeform sigil = true) (hclose : Solid close)
    (hplain : ¬ sigil <+: close) (h : freeContent sigil close text = some content) :
    ∃ rest closeSigil behind, text = content ++ rest ∧ ReadsEnd sigil close rest closeSigil behind
      ∧ offsetOf? close text = some (content.length + closeSigil.length) := by
  obtain ⟨c, rfl, -, hclosing⟩ := isFreeform_cases hsigil
  obtain ⟨d, tail, rfl, -⟩ := hclose.exists_cons
  have hne : c ≠ d := by
    rintro rfl
    exact hplain ⟨tail, rfl⟩
  obtain ⟨rest, rfl, hends⟩ := closes_of_freeContent h
  have hearlier : ∀ n < content.length, ¬ d :: tail <+: (content ++ rest).drop n := by
    intro n hn hstands
    have hnot := not_closes_of_freeContent h n hn
    rw [closes_eq_true_iff.mpr (.inl hstands)] at hnot
    cases hnot
  rcases closes_eq_true_iff.mp hends with ⟨behind, rfl⟩ | ⟨behind, rfl⟩
  · -- the delimiter stands there itself, and is not taken for the sigil
    refine ⟨_, [], behind, rfl, ⟨rfl, match?_closeSigil_of_not ?_⟩,
      offsetOf?_eq_some_iff.mpr ⟨?_, hearlier⟩⟩
    · rw [hclosing]
      rintro ⟨others, hothers⟩
      exact hne (List.cons.inj hothers).1
    · rw [List.length_nil, Nat.add_zero, List.drop_left]
      exact List.prefix_append _ _
  · have hfront : closingSigil [c] <+: [c] ++ d :: tail ++ behind := by
      rw [hclosing, List.append_assoc]
      exact List.prefix_append _ _
    have hmatch := match?_closeSigil hfront
    rw [hclosing] at hmatch
    refine ⟨_, [c], behind, rfl, ⟨List.append_assoc _ _ _, hmatch⟩,
      offsetOf?_eq_some_iff.mpr ⟨?_, ?_⟩⟩
    · rw [← List.drop_drop, List.drop_left]
      exact List.prefix_append _ _
    · intro n hn hstands
      rcases Nat.lt_or_ge n content.length with hlt | hge
      · exact hearlier n hlt hstands
      · -- at the sigil itself no delimiter stands
        have hn : n = content.length := by
          rw [List.length_singleton] at hn
          omega
        rw [hn, List.drop_left] at hstands
        obtain ⟨others, hothers⟩ := hstands
        exact hne (List.cons.inj hothers).1.symm

/-- **A closing delimiter that begins with the sigil** is read only behind the sigil. -/
theorem exists_readsEnd_iff (hsigil : isFreeform sigil = true) (hmarked : sigil <+: close)
    {rest : Chars} (hends : closes sigil close rest = true) :
    (∃ closeSigil behind, ReadsEnd sigil close rest closeSigil behind)
      ↔ sigil ++ close <+: rest := by
  obtain ⟨c, rfl, -, hclosing⟩ := isFreeform_cases hsigil
  have hfront : closingSigil [c] <+: rest := by
    rw [hclosing]
    rcases closes_eq_true_iff.mp hends with hclose | hclose
    · exact hmarked.trans hclose
    · exact (List.prefix_append _ _).trans hclose
  have hmatch := match?_closeSigil hfront
  rw [hclosing] at hmatch
  constructor
  · rintro ⟨closeSigil, behind, hrest, hsigilMatch⟩
    rw [hmatch] at hsigilMatch
    cases hsigilMatch
    exact ⟨behind, by rw [hrest, List.append_assoc]⟩
  · rintro ⟨behind, rfl⟩
    exact ⟨[c], behind, List.append_assoc _ _ _, hmatch⟩

end Pattern

namespace Tag

/-- Where the content of the tag may begin, behind the padding. -/
def contentPlace (tag : Tag) : Nat :=
  tag.offset.toNat + (tag.openTag ++ tag.sigil ++ tag.paddingBefore).length

/-- Where the closing delimiter of the tag stands. -/
def closePlace (tag : Tag) : Nat :=
  tag.contentPlace + (tag.content ++ tag.paddingAfter ++ tag.closeSigil).length

end Tag

namespace Lexer

variable {delimiters : Delimiters} {start : Cursor} {text indent sigil padding body : Chars}

/-- **A tag with free content opens ahead**: behind its opening delimiter stand a sigil of free
content, padding, and then the body, which does not begin with padding. -/
structure FreeOpening (delimiters : Delimiters) (start : Cursor)
    (text indent sigil padding body : Chars) : Prop where
  opening : Opening delimiters.opening.text start.ahead text indent
    (delimiters.opening.text ++ (sigil ++ (padding ++ body)))
  freeform : isFreeform sigil = true
  padding : ∀ c ∈ padding, c = ' '
  body : ∀ c ∈ body.head?, c ≠ ' '

namespace FreeOpening

variable {content rest : Chars}

theorem ahead_line (h : FreeOpening delimiters start text indent sigil padding body) :
    (start.advance (text.length + indent.length)).ahead
      = delimiters.opening.text ++ (sigil ++ (padding ++ body)) := by
  have hahead := h.opening.ahead_eq
  rw [← List.append_assoc] at hahead
  rw [← List.length_append]
  exact Cursor.ahead_advance_of_append hahead

theorem position_line (h : FreeOpening delimiters start text indent sigil padding body) :
    (start.advance (text.length + indent.length)).position
      = start.position + (text.length + indent.length) := by
  have hahead := h.opening.ahead_eq
  rw [← List.append_assoc] at hahead
  rw [← List.length_append]
  exact Cursor.position_advance_of_append hahead

theorem match?_content (h : FreeOpening delimiters start text indent sigil padding body) :
    (Pattern.content sigil delimiters.closing.text).match? body
      = Pattern.freeContent sigil delimiters.closing.text body := by
  obtain ⟨c, -, -, hclosing⟩ := Pattern.isFreeform_cases h.freeform
  simp only [Pattern.match?, h.freeform, if_true, hclosing]

/-- At the end of a tag there is no padding. -/
theorem match?_paddingAfter (h : FreeOpening delimiters start text indent sigil padding body)
    (hends : Pattern.closes sigil delimiters.closing.text rest = true) :
    Pattern.padding.match? ([] ++ rest) = some [] := by
  obtain ⟨c, rfl, hc, -⟩ := Pattern.isFreeform_cases h.freeform
  refine Pattern.match?_padding (fun _ hc => absurd hc List.not_mem_nil) fun d hd hspace => ?_
  obtain ⟨tail, rfl⟩ : ∃ tail, rest = ' ' :: tail := by
    cases rest with
    | nil => cases hd
    | cons e tail =>
      cases hd
      exact ⟨tail, by rw [hspace]⟩
  have hsolid : ∀ e ∈ [c], isSpace e = false := by
    intro e he
    cases List.mem_singleton.mp he
    rcases hc with rfl | rfl <;> decide
  rw [Pattern.closes_cons_space hsolid delimiters.closing.solid (by decide)] at hends
  cases hends

/-- **What is read of such a tag**: the pieces up to the end are settled, and the end is read. -/
theorem reads_iff (h : FreeOpening delimiters start text indent sigil padding body)
    (hbody : body = content ++ rest)
    (hcontent : Pattern.freeContent sigil delimiters.closing.text body = some content)
    {tag : Tag} (hopen : tag.openTag = delimiters.opening.text)
    (hclose : tag.closeTag = delimiters.closing.text) {behind : Chars} :
    Reads tag.pieces (start.advance (text.length + indent.length)).ahead behind
      ↔ tag.sigil = sigil ∧ tag.paddingBefore = padding ∧ tag.content = content
        ∧ tag.paddingAfter = []
        ∧ Pattern.ReadsEnd sigil delimiters.closing.text rest tag.closeSigil behind := by
  obtain ⟨c, rfl, hc, -⟩ := Pattern.isFreeform_cases h.freeform
  obtain ⟨rest', hbody', hends⟩ := Pattern.closes_of_freeContent hcontent
  cases List.append_cancel_left (hbody.symm.trans hbody')
  have hsigil : sigils.contains c = true := by rcases hc with rfl | rfl <;> decide
  have hfree := h.match?_content.trans hcontent
  have hpadding := Pattern.match?_padding h.padding h.body
  rw [h.ahead_line, Tag.pieces, hopen, hclose, Reads.cons_iff (Pattern.match?_literal _ _),
    Reads.cons_iff (Pattern.match?_optionalSigil hsigil _), Reads.cons_iff hpadding]
  simp only [true_and]
  refine and_congr_right fun hsigil => and_congr_right fun _ => ?_
  subst hbody
  rw [hsigil, Reads.cons_iff hfree, ← List.nil_append rest,
    Reads.cons_iff (h.match?_paddingAfter hends), List.nil_append]
  exact and_congr_right fun _ => and_congr_right fun _ => Pattern.reads_end_iff

/-- Where the end is read, the tag is. -/
theorem readTag_of_readsEnd (h : FreeOpening delimiters start text indent sigil padding body)
    (hbody : body = content ++ rest)
    (hcontent : Pattern.freeContent sigil delimiters.closing.text body = some content)
    {closeSigil behind : Chars}
    (hend : Pattern.ReadsEnd sigil delimiters.closing.text rest closeSigil behind) :
    ∃ tag after, readTag delimiters (start.advance (text.length + indent.length)) = .ok (tag, after)
      ∧ tag.sigil = sigil ∧ tag.paddingBefore = padding ∧ tag.content = content
      ∧ tag.paddingAfter = [] ∧ tag.closeSigil = closeSigil := by
  let tag : Tag := ⟨delimiters.opening.text, sigil, padding, content, [], closeSigil,
    delimiters.closing.text, [], [], false,
    (start.advance (text.length + indent.length)).position⟩
  have hreads : Reads tag.pieces (start.advance (text.length + indent.length)).ahead behind :=
    (h.reads_iff hbody hcontent rfl rfl).mpr ⟨rfl, rfl, rfl, rfl, hend⟩
  obtain ⟨after, hread, -⟩ := readTag_of_reads ⟨rfl, rfl, rfl, rfl, rfl, rfl⟩ hreads
  exact ⟨tag, after, hread, rfl, rfl, rfl, rfl, rfl⟩

/-- Where the tag is read, the end is. -/
theorem readsEnd_of_readTag (h : FreeOpening delimiters start text indent sigil padding body)
    (hbody : body = content ++ rest)
    (hcontent : Pattern.freeContent sigil delimiters.closing.text body = some content)
    {tag : Tag} {after : Cursor}
    (hread : readTag delimiters (start.advance (text.length + indent.length)) = .ok (tag, after)) :
    Pattern.ReadsEnd sigil delimiters.closing.text rest tag.closeSigil after.ahead := by
  obtain ⟨hjust, hreads⟩ := reads_of_readTag hread
  exact ((h.reads_iff hbody hcontent hjust.openTag hjust.closeTag).mp hreads).2.2.2.2

/-- The body of the tag is what stands in the template from the place of the content on. -/
theorem drop_contentPlace (h : FreeOpening delimiters start text indent sigil padding body)
    {tag : Tag} {after : Cursor}
    (hread : readTag delimiters (start.advance (text.length + indent.length)) = .ok (tag, after))
    (hsigil : tag.sigil = sigil) (hpadding : tag.paddingBefore = padding) :
    start.source.drop tag.contentPlace = body := by
  obtain ⟨hjust, -⟩ := reads_of_readTag hread
  have hplace : tag.contentPlace = (start.before
      ++ (text ++ indent ++ delimiters.opening.text ++ sigil ++ padding)).length := by
    unfold Tag.contentPlace
    rw [hjust.offset, h.position_line, hjust.openTag, hsigil, hpadding, Int.toNat_natCast,
      start.position_eq_length]
    simp only [List.length_append]
    omega
  have hsource : start.source = (start.before
      ++ (text ++ indent ++ delimiters.opening.text ++ sigil ++ padding)) ++ body := by
    rw [← start.before_append_ahead, h.opening.ahead_eq]
    simp only [List.append_assoc]
  rw [hplace, hsource, List.drop_left]

/-- **A tag whose end is found is read**, up to the first closing delimiter behind its sigil and
padding, when that delimiter does not begin with the sigil. -/
theorem exists_readTag (h : FreeOpening delimiters start text indent sigil padding body)
    (hplain : ¬ sigil <+: delimiters.closing.text)
    (hcontent : Pattern.freeContent sigil delimiters.closing.text body = some content) :
    ∃ tag after, readTag delimiters (start.advance (text.length + indent.length)) = .ok (tag, after)
      ∧ tag.sigil = sigil ∧ tag.paddingBefore = padding ∧ tag.content = content
      ∧ FirstFrom delimiters.closing.text start.source tag.contentPlace tag.closePlace := by
  obtain ⟨rest, closeSigil, behind, hbody, hend, hfirst⟩ :=
    Pattern.exists_readsEnd h.freeform delimiters.closing.solid hplain hcontent
  obtain ⟨tag, after, hread, hsigil, hpadding, htag, hpaddingAfter, hcloseSigil⟩ :=
    h.readTag_of_readsEnd hbody hcontent hend
  refine ⟨tag, after, hread, hsigil, hpadding, htag, ?_⟩
  rw [← h.drop_contentPlace hread hsigil hpadding] at hfirst
  have hplace := firstFrom_of_offsetOf? hfirst
  unfold Tag.closePlace
  rw [htag, hpaddingAfter, hcloseSigil, List.append_nil, List.length_append]
  exact hplace

/-- **A tag whose closing delimiter begins with the sigil** is read just where the end that is found
has the sigil in front. -/
theorem exists_readTag_iff (h : FreeOpening delimiters start text indent sigil padding body)
    (hmarked : sigil <+: delimiters.closing.text)
    (hcontent : Pattern.freeContent sigil delimiters.closing.text body = some content) :
    (∃ result, readTag delimiters (start.advance (text.length + indent.length)) = .ok result)
      ↔ sigil ++ delimiters.closing.text <+: body.drop content.length := by
  obtain ⟨rest, hbody, hends⟩ := Pattern.closes_of_freeContent hcontent
  rw [hbody, List.drop_left, ← Pattern.exists_readsEnd_iff h.freeform hmarked hends]
  constructor
  · rintro ⟨⟨tag, after⟩, hread⟩
    exact ⟨_, _, h.readsEnd_of_readTag hbody hcontent hread⟩
  · rintro ⟨closeSigil, behind, hend⟩
    obtain ⟨tag, after, hread, -⟩ := h.readTag_of_readsEnd hbody hcontent hend
    exact ⟨(tag, after), hread⟩

end FreeOpening

/-! ## Definitions that are none -/

/-- **The delimiters cannot be changed** by a definition that is not two words. -/
theorem delimitersAfter_eq_error {tag : Tag} {fault : Fault}
    (h : delimitersAfter delimiters start tag = .error fault) :
    tag.kind? = some .delimiters ∧ (words isSpace tag.content).length ≠ 2
      ∧ fault = .malformed (.unmatched tag.offset Pattern.delimiterPairWritten)
        (.ofPosition (.ofOffset start.source tag.offset)) := by
  unfold delimitersAfter at h
  split at h
  next hkind =>
    split at h
    · cases h
    next hnone =>
      cases h
      refine ⟨hkind, fun hlength => ?_, rfl⟩
      obtain ⟨opening, closing, hwords⟩ := List.length_eq_two.mp hlength
      unfold Delimiters.ofDefinition? at hnone
      split at hnone
      · cases hnone
      next hother => exact hother opening closing hwords
  · cases h

/-- Once its tag is read, a step fails only for a definition. -/
theorem next_eq_error_of_readTag {text indent rest : Chars} {tag : Tag} {after : Cursor}
    {fault : Fault} (hopening : Opening delimiters.opening.text start.ahead text indent rest)
    (hread : readTag delimiters (start.advance (text.length + indent.length)) = .ok (tag, after))
    (h : next delimiters start = .error fault) :
    delimitersAfter delimiters start tag = .error fault := by
  rw [next_of_opening hopening] at h
  unfold tagStep at h
  simp only [hread, bind_eq_error] at h
  obtain h | ⟨read, hok, h⟩ := h
  · cases h
  · cases hok
    obtain h | ⟨others, -, h⟩ := h
    · exact h
    · cases h

/-- **A tag with free content that has an end is closed there.** The content is found just when the
closing delimiter lies ahead. Unless that delimiter begins with the sigil, the tag is read then, it
is closed at the first closing delimiter behind its sigil and padding, and the step fails only for a
definition that is not two words. If the delimiter does begin with the sigil, the tag is read only
when the end that is found has the sigil in front. -/
theorem next_free (h : FreeOpening delimiters start text indent sigil padding body) :
    let close := delimiters.closing.text
    let read := readTag delimiters (start.advance (text.length + indent.length))
    ((∃ content, (Pattern.content sigil close).match? body = some content)
        ↔ ∃ n, close <+: body.drop n)
      ∧ ∀ content, (Pattern.content sigil close).match? body = some content →
        (¬ sigil <+: close → ∃ tag after, read = .ok (tag, after) ∧ tag.sigil = sigil
          ∧ tag.paddingBefore = padding ∧ tag.content = content
          ∧ tag.offset = (start.position + (text.length + indent.length) : Nat)
          ∧ tag.closeTag = close
          ∧ FirstFrom close start.source tag.contentPlace tag.closePlace
          ∧ ∀ fault, next delimiters start = .error fault →
            tag.kind? = some .delimiters ∧ (words isSpace content).length ≠ 2
              ∧ fault = .malformed (.unmatched tag.offset Pattern.delimiterPairWritten)
                (.ofPosition (.ofOffset start.source tag.offset)))
        ∧ (sigil <+: close →
          ((∃ result, read = .ok result) ↔ sigil ++ close <+: body.drop content.length)) := by
  intro close read
  refine ⟨?_, fun content hmatch => ⟨fun hplain => ?_, fun hmarked => ?_⟩⟩
  · rw [h.match?_content]
    exact Pattern.exists_freeContent_iff
  · have hcontent := h.match?_content.symm.trans hmatch
    obtain ⟨tag, after, hread, hsigil, hpadding, htag, hfirst⟩ := h.exists_readTag hplain hcontent
    obtain ⟨hjust, -⟩ := reads_of_readTag hread
    refine ⟨tag, after, hread, hsigil, hpadding, htag, hjust.offset.trans ?_, hjust.closeTag,
      hfirst, fun fault hfault => ?_⟩
    · rw [h.position_line]
    · rw [← htag]
      exact delimitersAfter_eq_error (next_eq_error_of_readTag h.opening hread hfault)
  · exact h.exists_readTag_iff hmarked (h.match?_content.symm.trans hmatch)

/-- A comment behind a tab: it holds a brace, and ends in its sigil. -/
theorem next_free_ends_in_sigil :
    let start := Cursor.start "a\n\t\x7b\x7b! b\x7d !\x7d\x7d\x7d".toList
    let body : Chars := ['b', '}', ' ', '!', '}', '}', '}']
    FreeOpening .standard start ['a', '\n'] ['\t'] ['!'] [' '] body
      ∧ (Pattern.content ['!'] ['}', '}']).match? body = some ['b', '}', ' ']
      ∧ ¬ ['!'] <+: ['}', '}']
      ∧ ∃ tag after, readTag .standard (start.advance 3) = .ok (tag, after)
        ∧ tag.content = ['b', '}', ' '] ∧ tag.offset = 3
        ∧ FirstFrom ['}', '}'] start.source tag.contentPlace tag.closePlace
        ∧ ∀ fault, next .standard start ≠ .error fault := by
  intro start body
  have hfree : FreeOpening .standard start ['a', '\n'] ['\t'] ['!'] [' '] body := by
    refine ⟨⟨rfl, rfl, ?_, ?_⟩, rfl, ?_, ?_⟩
    · intro c hc
      cases List.mem_singleton.mp hc
      rfl
    · rintro c ⟨⟩
      rfl
    · intro c hc
      exact List.mem_singleton.mp hc
    · rintro c ⟨⟩
      decide
  have hmatch : (Pattern.content ['!'] ['}', '}']).match? body = some ['b', '}', ' '] := rfl
  have hplain : ¬ ['!'] <+: ['}', '}'] := by decide
  obtain ⟨tag, after, hread, hsigil, -, hcontent, hoffset, -, hfirst, hfails⟩ :=
    ((next_free hfree).2 _ hmatch).1 hplain
  refine ⟨hfree, hmatch, hplain, tag, after, hread, hcontent, hoffset, hfirst, fun fault h => ?_⟩
  have hkind := (hfails fault h).1
  rw [Tag.kind?_eq_some_iff, hsigil] at hkind
  cases hkind

end Lexer

/-- **Not every tag that has an end is closed there**: a closing delimiter that begins with the
sigil is taken apart. -/
theorem tokenize_unclosed :
    let source : Chars := "\x7b\x7b=<% !%=\x7d\x7d<%! comment !%".toList
    (Pattern.content ['!'] ['!', '%']).match? (source.drop 15) = some "comment ".toList
      ∧ FirstFrom ['!', '%'] source 15 23
      ∧ tokenize source = .error (.malformed (.unmatched 24 ['!', '%']) (.ofPosition ⟨1, 25⟩)) := by
  intro source
  have hfirst : FirstFrom ['!', '%'] source 15 (15 + 8) := firstFrom_of_offsetOf? rfl
  refine ⟨rfl, hfirst, ?_⟩
  rw [tokenize_eq_runWithin]
  decide +kernel

end Mustache
