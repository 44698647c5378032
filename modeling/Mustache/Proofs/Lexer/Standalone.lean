import Mustache.Proofs.Lexer.Boundary
import Mustache.Proofs.Lexer.TagStep

/-!
# Tags alone on their lines

A tag is taken as standalone exactly when it has its line to itself: its kind prints nothing, only
blanks are in front of it in its line, and behind it the line ends in blanks. Such a tag takes its
whole line, or all the lines it is written over, and nothing else; any other tag takes no white
space at all. `tokenize_standalone_iff` says so of every tag of every template, in terms of the
template and the offset of the tag.

The lexer judges the beginning of a line at the point where the plain text before a tag ends. It
sees no more of the line than that, so it has to be sure that the line was shown to it: this is the
invariant of the run (`ShowsLine`). Behind a tag the text ends in a delimiter, which is no blank, or
with the line that the tag has taken.
-/

namespace Mustache

open Text Chars

/-- A text whose end shows where it stands in its line does so behind any other text. -/
theorem Chars.ShowsLine.append {left right : Chars} (hleft : ShowsLine left)
    (hright : ∀ c ∈ right.getLast?, isBlank c = false) : ShowsLine (left ++ right) := by
  by_cases hnil : right = []
  · rwa [hnil, List.append_nil]
  · refine showsLine_of_getLast? fun c hc => hright c ?_
    rwa [List.getLast?_append_of_ne_nil left hnil] at hc

/-- Behind the blank end of a line nothing is left, or the line ends there. -/
theorem Chars.BlankEnd.endsLine {ending rest : Chars} (h : BlankEnd (ending ++ rest) ending) :
    rest = [] ∨ EndsLine ending := by
  generalize htext : ending ++ rest = text at h
  cases h with
  | @lineFeed blank behind _ => exact .inr ⟨blank, rfl⟩
  | @returnLineFeed blank behind _ => exact .inr ⟨blank ++ ['\r'], by simp⟩
  | textEnd _ => exact .inl (by simpa using htext)

namespace Tag

/-- What stands in front of the tag in its line. -/
def lineBefore (source : Chars) (tag : Tag) : Chars := lastLine (source.take tag.offset.toNat)

/-- What stands behind the tag in the template. -/
def textBehind (source : Chars) (tag : Tag) : Chars :=
  source.drop (tag.offset.toNat + tag.core.length)

/-- **The tag has its line to itself.** -/
structure HasLine (source : Chars) (tag : Tag) : Prop where
  kind : tag.kind? ≠ some .escaped ∧ tag.kind? ≠ some .unescaped ∧ tag.kind? ≠ some .triple
  before : ∀ c ∈ tag.lineBefore source, isBlank c = true
  behind : ∃ ending, BlankEnd (tag.textBehind source) ending

/-- **The tag takes its line**: the blanks in front of it, and the blank end of the line behind it.
With them it is written, at its place, over whole lines. -/
structure TakesLine (source : Chars) (tag : Tag) : Prop where
  before : tag.spaceBefore = tag.lineBefore source
  behind : BlankEnd (tag.textBehind source) tag.spaceAfter
  whole : ∃ left right, source = left ++ (tag.written ++ right)
    ∧ left.length + tag.spaceBefore.length = tag.offset.toNat
    ∧ (left = [] ∨ EndsLine left) ∧ (right = [] ∨ EndsLine tag.written)

/-- **The tag is settled on its line** as its place in the template demands. -/
structure Settled (source : Chars) (tag : Tag) : Prop where
  standalone_iff : tag.standalone = true ↔ tag.HasLine source
  alone : tag.standalone = true → tag.TakesLine source
  inline : tag.standalone = false → tag.spaceBefore = [] ∧ tag.spaceAfter = []

/-- The kinds that may stand alone are all but the three that print a value. -/
theorem any_standsAlone_iff {tag : Tag} (hknown : tag.kind?.isSome = true) :
    tag.kind?.any TagKind.standsAlone = true ↔ tag.kind? ≠ some .escaped
      ∧ tag.kind? ≠ some .unescaped ∧ tag.kind? ≠ some .triple := by
  obtain ⟨kind, hkind⟩ := Option.isSome_iff_exists.mp hknown
  rw [hkind]
  cases kind <;> simp [TagKind.standsAlone]

end Tag

namespace Lexer

variable {delimiters : Delimiters} {start : Cursor}

namespace TagStep

variable {text indent : Chars} {tag : Tag} {step : Step}

/-- Where the blanks before the tag begin, the text shows where it stands in its line. -/
theorem showsLine_text (h : TagStep delimiters start text indent tag step)
    (hstart : ShowsLine start.before) : ShowsLine (start.before ++ text) :=
  hstart.append h.opening.trimmed

/-- **In front of the tag there are only blanks** when a line begins where they do. -/
theorem lineBefore_blank_iff (h : TagStep delimiters start text indent tag step)
    (hstart : ShowsLine start.before) :
    (∀ c ∈ tag.lineBefore start.source, isBlank c = true)
      ↔ lineStartAfter true (start.before ++ text) = true := by
  unfold Tag.lineBefore
  rw [h.take_offset]
  exact lastLine_blank_iff (h.showsLine_text hstart) h.opening.blank

/-- A tag alone on its line takes it. -/
theorem takesLine (h : TagStep delimiters start text indent tag step)
    (hstandalone : tag.standalone = true) : tag.TakesLine start.source := by
  obtain ⟨hbefore, hend⟩ := h.alone hstandalone
  obtain ⟨-, hline, -⟩ := h.standalone_iff.mp hstandalone
  have hindent : '\n' ∉ indent := lineFeed_not_mem_blank h.opening.blank
  refine ⟨?_, ?_, start.before ++ text, step.cursor.ahead, ?_, ?_, ?_, ?_⟩
  · unfold Tag.lineBefore
    rw [h.take_offset, lastLine_append_of_not_mem hindent, (lastLine_eq_nil_iff _).mpr hline,
      hbefore, List.nil_append]
  · unfold Tag.textBehind
    rw [h.drop_core]
    exact hend
  · rw [h.source_eq, Tag.written, hbefore]
    simp only [List.append_assoc]
  · rw [h.offset_toNat, hbefore, ← List.length_append]
  · by_cases hnil : start.before ++ text = []
    · exact .inl hnil
    · exact .inr (EndsLine.of_lineStartAfter hline hnil)
  · obtain hnil | ⟨init, hinit⟩ := hend.endsLine
    · exact .inl hnil
    · refine .inr ⟨tag.spaceBefore ++ tag.core ++ init, ?_⟩
      rw [Tag.written, hinit]
      simp only [List.append_assoc]

/-- **The tag of a step is settled** as its place demands, when the text before the step shows where
it stands in its line. -/
theorem settled (h : TagStep delimiters start text indent tag step)
    (hstart : ShowsLine start.before) : tag.Settled start.source := by
  refine ⟨?_, h.takesLine, h.inline⟩
  rw [h.standalone_iff, Tag.any_standsAlone_iff h.known, ← h.lineBefore_blank_iff hstart,
    ← h.drop_core]
  exact ⟨fun ⟨hkind, hbefore, hbehind⟩ => ⟨hkind, hbefore, hbehind⟩,
    fun ⟨hkind, hbefore, hbehind⟩ => ⟨hkind, hbefore, hbehind⟩⟩

/-- A tag does not end in a blank. -/
theorem getLast?_core (h : TagStep delimiters start text indent tag step) :
    ∀ c ∈ tag.core.getLast?, isBlank c = false := by
  intro c hc
  have hclose := h.closeTag ▸ delimiters.closing.solid
  rw [Tag.core, List.getLast?_append_of_ne_nil _ hclose.1] at hc
  have hdense := hclose.2 c (List.mem_of_getLast? hc)
  refine Bool.eq_false_iff.mpr fun hblank => ?_
  rw [isSpace_of_isBlank hblank] at hdense
  cases hdense

/-- **Behind a tag the text shows where it stands in its line**, unless it ends there. -/
theorem showsLine_cursor (h : TagStep delimiters start text indent tag step) :
    step.cursor.ahead = [] ∨ ShowsLine step.cursor.before := by
  have hcore : tag.core ≠ [] := by
    have hclose := h.closeTag ▸ delimiters.closing.nonempty
    exact List.append_ne_nil_of_right_ne_nil _ hclose
  rw [h.before_cursor]
  cases hstandalone : tag.standalone with
  | false =>
    obtain ⟨-, hafter⟩ := h.inline hstandalone
    right
    rw [hafter, List.append_nil]
    refine showsLine_of_getLast? fun c hc => h.getLast?_core c ?_
    rwa [List.getLast?_append_of_ne_nil _ hcore] at hc
  | true =>
    obtain ⟨-, hend⟩ := h.alone hstandalone
    obtain hnil | ⟨init, hinit⟩ := hend.endsLine
    · exact .inl hnil
    · refine .inr (showsLine_of_getLast? fun c hc => ?_)
      rw [hinit, ← List.append_assoc, List.getLast?_concat, Option.mem_some_iff] at hc
      rw [← hc]
      decide

end TagStep

/-- **Every tag of a run is settled** as its place demands. -/
theorem run_settled {tokens : List Token} (h : run delimiters start = .ok tokens)
    (hstart : start.ahead = [] ∨ ShowsLine start.before) :
    ∀ tag, .tag tag ∈ tokens → tag.Settled start.source := by
  refine run_induction (P := fun _ start tokens =>
    (start.ahead = [] ∨ ShowsLine start.before) →
      ∀ tag, .tag tag ∈ tokens → tag.Settled start.source) ?_ ?_ h hstart
  · intro _ _ _ _ tag hmem
    cases hmem
  · intro delimiters start step others hne hnext hrun ih hstart tag hmem
    rcases next_eq_ok hnext with ⟨-, rfl⟩ | ⟨text, indent, read, hstep⟩
    · -- all that was ahead is plain text, and there is no tag in it or behind it
      have hend := ahead_textStep delimiters start
      rw [run_nil _ hend] at hrun
      cases hrun
      rw [List.append_nil] at hmem
      exact absurd hmem (tag_not_mem_ofText tag _ _)
    · rcases List.mem_append.mp hmem with hmem | hmem
      · rw [hstep.eq_of_mem hmem]
        exact hstep.settled (hstart.resolve_left hne)
      · rw [← hstep.source]
        exact ih hstep.showsLine_cursor tag hmem

end Lexer

/-- **A tag is standalone exactly when it has its line to itself.** Then it takes the whole line, and
nothing else; otherwise it takes no white space. -/
theorem tokenize_standalone_iff {source : Chars} {tokens : List Token} {tag : Tag}
    (h : tokenize source = .ok tokens) (hmem : .tag tag ∈ tokens) :
    (tag.standalone = true ↔ tag.HasLine source)
      ∧ (tag.standalone = true → tag.TakesLine source)
      ∧ (tag.standalone = false → tag.spaceBefore = [] ∧ tag.spaceAfter = []) := by
  rw [tokenize_eq_run] at h
  have hbegin : ShowsLine (Cursor.start source).before := by
    rw [Cursor.before_start]
    exact fun _ => rfl
  obtain ⟨hiff, halone, hinline⟩ := Lexer.run_settled h (.inr hbegin) tag hmem
  exact ⟨hiff, halone, hinline⟩

/-- A delimiter tag takes its line. The block that opens behind a comment of two lines does not: there
is more than blanks in front of it. -/
theorem tokenize_standalone_iff_behind_comment :
    let source : Chars := "x\n \x7b\x7b=| |=\x7d\x7d\r\n |!a\n b| |#s|".toList
    let definition : Tag :=
      ⟨['{', '{'], ['='], [], ['|', ' ', '|'], [], ['='], ['}', '}'], [' '], ['\r', '\n'], true, 3⟩
    let remark : Tag :=
      ⟨['|'], ['!'], [], ['a', '\n', ' ', 'b'], [], [], ['|'], [], [], false, 15⟩
    let block : Tag := ⟨['|'], ['#'], [], ['s'], [], [], ['|'], [], [], false, 23⟩
    tokenize source = .ok [.text ['x', '\n'] 0, .tag definition, .text [' '] 14, .tag remark,
        .text [' '] 22, .tag block]
      ∧ definition.HasLine source ∧ definition.TakesLine source
      ∧ ¬ remark.HasLine source ∧ ¬ block.HasLine source := by
  intro source definition remark block
  have htokens : tokenize source = .ok [.text ['x', '\n'] 0, .tag definition, .text [' '] 14,
      .tag remark, .text [' '] 22, .tag block] := by
    rw [tokenize_eq_runWithin]
    decide +kernel
  have hdefinition := @tokenize_standalone_iff source _ definition htokens (by simp)
  have hremark := @tokenize_standalone_iff source _ remark htokens (by simp)
  have hblock := @tokenize_standalone_iff source _ block htokens (by simp)
  refine ⟨htokens, hdefinition.1.mp rfl, hdefinition.2.1 rfl, fun hline => ?_, fun hline => ?_⟩
  · exact Bool.false_ne_true (hremark.1.mpr hline)
  · exact Bool.false_ne_true (hblock.1.mpr hline)

end Mustache
