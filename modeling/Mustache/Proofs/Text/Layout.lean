import Mustache.Indent
import Mustache.Proofs.Text.Solid

/-!
# Laying out the lines of a text

A **layout** says what stands in front of each line and what ends it. `Layout.spell` lays a text out
anew, character by character: the indentation goes in front of the first character of a line, so a
last line without a character gets none, and every line feed is spelled as the layout ends its
lines. `Layout.inside` says what becomes of a part of a text that more of the text follows: there
the indentation comes right behind each line feed.

**The laws.** `spell_append`: a text is laid out part by part. `indentText_eq_spell`: indenting the
lines of a partial is laying it out. What a template is cut by is not moved by a layout, as all it
puts in is white space and a delimiter holds none: `offsetOf?_spell`, `freeContent_spell`,
`words_inside`. The blank end of a line stays one (`endOfLine_spell`).
-/

namespace Mustache

open Text

/-- **A line begins after the text**, when one begins before it or the text ends in a line feed. -/
def Chars.lineStartAfter (lineStart : Bool) (text : Chars) : Bool :=
  text.foldl (fun _ c => c == '\n') lineStart

namespace Chars

@[simp] theorem lineStartAfter_nil (lineStart : Bool) : lineStartAfter lineStart [] = lineStart :=
  rfl

@[simp] theorem lineStartAfter_cons (lineStart : Bool) (c : Char) (text : Chars) :
    lineStartAfter lineStart (c :: text) = lineStartAfter (c == '\n') text := rfl

theorem lineStartAfter_append (lineStart : Bool) (left right : Chars) :
    lineStartAfter lineStart (left ++ right)
      = lineStartAfter (lineStartAfter lineStart left) right :=
  List.foldl_append

theorem lineStartAfter_concat (lineStart : Bool) (text : Chars) (c : Char) :
    lineStartAfter lineStart (text ++ [c]) = (c == '\n') := by
  rw [lineStartAfter_append]
  rfl

/-- After a solid text no line begins. -/
theorem lineStartAfter_solid {text : Chars} (h : Solid text) (lineStart : Bool) :
    lineStartAfter lineStart text = false := by
  rcases List.eq_nil_or_concat text with rfl | ⟨init, c, rfl⟩
  · exact absurd rfl h.1
  · rw [List.concat_eq_append, lineStartAfter_concat]
    refine beq_false_of_ne ?_
    rintro rfl
    have hspace := h.2 '\n' (by simp)
    rw [isSpace_lineFeed] at hspace
    cases hspace

end Chars

open Chars

/-- **A layout**: the blanks in front of each line, and what ends a line. -/
structure Layout where
  indent : Chars
  newline : Chars
  indent_blank : ∀ c ∈ indent, isBlank c = true
  newline_eq : newline = ['\n'] ∨ newline = ['\r', '\n']

namespace Layout

/-- The layout that every text has already. -/
def plain : Layout := ⟨[], ['\n'], by simp, .inl rfl⟩

/-- The layout of a partial indented by these blanks. -/
def indented (indent : Chars) (hblank : ∀ c ∈ indent, isBlank c = true) : Layout :=
  ⟨indent, ['\n'], hblank, .inl rfl⟩

variable (layout : Layout)

/-- What a character is spelled as. -/
def ofChar (c : Char) : Chars := if c = '\n' then layout.newline else [c]

/-- What stands in front of a character. -/
def margin (lineStart : Bool) : Chars := if lineStart then layout.indent else []

/-- **The text laid out**, where a line begins before it or not. -/
def spell : Bool → Chars → Chars
  | _, [] => []
  | lineStart, c :: rest =>
    layout.margin lineStart ++ (layout.ofChar c ++ spell (c == '\n') rest)

/-- **A part of a text laid out**, up to the character that follows it. -/
def inside (text : Chars) : Chars :=
  text.flatMap fun c => layout.ofChar c ++ layout.margin (c == '\n')

/-! ## Characters and margins -/

@[simp] theorem margin_false : layout.margin false = [] := rfl

@[simp] theorem margin_true : layout.margin true = layout.indent := rfl

theorem ofChar_lineFeed : layout.ofChar '\n' = layout.newline := if_pos rfl

theorem ofChar_of_ne {c : Char} (h : c ≠ '\n') : layout.ofChar c = [c] := if_neg h

theorem isBlank_margin {lineStart : Bool} : ∀ c ∈ layout.margin lineStart, isBlank c = true := by
  intro c hc
  cases lineStart with
  | false => cases hc
  | true => exact layout.indent_blank c hc

/-- What ends a line begins with white space that is neither a blank nor part of a name. -/
theorem exists_newline : ∃ c rest, layout.newline = c :: rest ∧ isSpace c = true
    ∧ isBlank c = false ∧ isName c = false := by
  rcases layout.newline_eq with h | h
  · exact ⟨'\n', [], h, by decide, by decide, by decide⟩
  · exact ⟨'\r', ['\n'], h, by decide, by decide, by decide⟩

theorem isSpace_newline : ∀ c ∈ layout.newline, isSpace c = true := by
  intro c hc
  rcases layout.newline_eq with h | h
  · rw [h, List.mem_singleton] at hc
    rw [hc]
    decide
  · rw [h, List.mem_pair] at hc
    rcases hc with rfl | rfl <;> decide

theorem isSpace_margin {lineStart : Bool} : ∀ c ∈ layout.margin lineStart, isSpace c = true :=
  fun c hc => isSpace_of_isBlank (layout.isBlank_margin c hc)

theorem lineStartAfter_ofChar (lineStart : Bool) (c : Char) :
    lineStartAfter lineStart (layout.ofChar c) = (c == '\n') := by
  by_cases h : c = '\n'
  · subst h
    rw [ofChar_lineFeed]
    rcases layout.newline_eq with h | h <;> rw [h] <;> rfl
  · rw [layout.ofChar_of_ne h]
    rfl

/-! ## Texts part by part -/

@[simp] theorem spell_nil (lineStart : Bool) : layout.spell lineStart [] = [] := by
  rw [spell]

theorem spell_cons (lineStart : Bool) (c : Char) (rest : Chars) :
    layout.spell lineStart (c :: rest)
      = layout.margin lineStart ++ (layout.ofChar c ++ layout.spell (c == '\n') rest) := by
  rw [spell]

/-- A line feed laid out is the end of a line and then the beginning of one. -/
theorem spell_lineFeed (rest : Chars) :
    layout.spell false ('\n' :: rest) = layout.newline ++ layout.spell true rest := by
  rw [spell_cons, ofChar_lineFeed]
  rfl

theorem spell_cons_of_ne {c : Char} (h : c ≠ '\n') (rest : Chars) :
    layout.spell false (c :: rest) = c :: layout.spell false rest := by
  rw [spell_cons, layout.ofChar_of_ne h, beq_false_of_ne h]
  rfl

/-- **A text is laid out part by part.** -/
theorem spell_append (lineStart : Bool) (left right : Chars) :
    layout.spell lineStart (left ++ right)
      = layout.spell lineStart left ++ layout.spell (lineStartAfter lineStart left) right := by
  induction left generalizing lineStart with
  | nil => rfl
  | cons c left ih =>
    rw [List.cons_append, spell_cons, spell_cons, ih, lineStartAfter_cons]
    simp only [List.append_assoc]

/-- The margin is all that a line's beginning adds. -/
theorem spell_of_ne_nil (lineStart : Bool) {text : Chars} (h : text ≠ []) :
    layout.spell lineStart text = layout.margin lineStart ++ layout.spell false text := by
  cases text with
  | nil => exact absurd rfl h
  | cons c rest => rw [spell_cons, spell_cons]; rfl

@[simp] theorem inside_nil : layout.inside [] = [] := rfl

theorem inside_cons (c : Char) (text : Chars) :
    layout.inside (c :: text)
      = layout.ofChar c ++ (layout.margin (c == '\n') ++ layout.inside text) := by
  rw [inside, List.flatMap_cons, List.append_assoc]
  rfl

theorem inside_lineFeed (text : Chars) :
    layout.inside ('\n' :: text) = layout.newline ++ (layout.indent ++ layout.inside text) := by
  rw [inside_cons, ofChar_lineFeed]
  rfl

theorem inside_cons_of_ne {c : Char} (h : c ≠ '\n') (text : Chars) :
    layout.inside (c :: text) = c :: layout.inside text := by
  rw [inside_cons, layout.ofChar_of_ne h, beq_false_of_ne h]
  rfl

theorem inside_append (left right : Chars) :
    layout.inside (left ++ right) = layout.inside left ++ layout.inside right :=
  List.flatMap_append

/-- A part of a text laid out ends with the margin of what follows. -/
theorem margin_append_inside (lineStart : Bool) (text : Chars) :
    layout.margin lineStart ++ layout.inside text
      = layout.spell lineStart text ++ layout.margin (lineStartAfter lineStart text) := by
  induction text generalizing lineStart with
  | nil => simp
  | cons c text ih =>
    rw [inside_cons, spell_cons, ih, lineStartAfter_cons]
    simp only [List.append_assoc]

/-- **A text is laid out inside another** up to the character that follows it. -/
theorem spell_append_of_ne_nil (lineStart : Bool) (left : Chars) {right : Chars}
    (h : right ≠ []) :
    layout.spell lineStart (left ++ right)
      = layout.margin lineStart ++ (layout.inside left ++ layout.spell false right) := by
  rw [spell_append, layout.spell_of_ne_nil _ h, ← List.append_assoc, ← margin_append_inside,
    List.append_assoc]

theorem inside_of_not_mem {text : Chars} (h : '\n' ∉ text) : layout.inside text = text := by
  induction text with
  | nil => rfl
  | cons c text ih =>
    rw [List.mem_cons, not_or] at h
    rw [layout.inside_cons_of_ne (Ne.symm h.1), ih h.2]

theorem spell_of_not_mem {text : Chars} (h : '\n' ∉ text) : layout.spell false text = text := by
  induction text with
  | nil => rw [spell_nil]
  | cons c text ih =>
    rw [List.mem_cons, not_or] at h
    rw [layout.spell_cons_of_ne (Ne.symm h.1), ih h.2]

/-- What stays as it is inside a line is followed by the rest laid out. -/
theorem spell_append_of_not_mem {left : Chars} (h : '\n' ∉ left) (right : Chars) :
    layout.spell false (left ++ right) = left ++ layout.spell false right := by
  induction left with
  | nil => rfl
  | cons c left ih =>
    rw [List.mem_cons, not_or] at h
    rw [List.cons_append, layout.spell_cons_of_ne (Ne.symm h.1), ih h.2, List.cons_append]

theorem lineStartAfter_spell (lineStart : Bool) (text : Chars) :
    lineStartAfter lineStart (layout.spell lineStart text) = lineStartAfter lineStart text := by
  induction text generalizing lineStart with
  | nil => rw [spell_nil]
  | cons c text ih =>
    rw [spell_cons, lineStartAfter_append, lineStartAfter_append, lineStartAfter_ofChar, ih]
    rfl

theorem spell_ne_nil (lineStart : Bool) {text : Chars} (h : text ≠ []) :
    layout.spell lineStart text ≠ [] := by
  rw [layout.spell_of_ne_nil lineStart h]
  cases text with
  | nil => exact absurd rfl h
  | cons c text =>
    obtain ⟨d, rest, hnewline, -⟩ := layout.exists_newline
    rw [spell_cons, ofChar, hnewline]
    split <;> simp

theorem getLast?_ofChar (c : Char) : (layout.ofChar c).getLast? = some c := by
  by_cases h : c = '\n'
  · subst h
    rw [ofChar_lineFeed]
    rcases layout.newline_eq with h | h <;> rw [h] <;> rfl
  · rw [layout.ofChar_of_ne h]
    rfl

theorem getLast?_spell (lineStart : Bool) (text : Chars) :
    (layout.spell lineStart text).getLast? = text.getLast? := by
  induction text generalizing lineStart with
  | nil => rw [spell_nil]
  | cons c text ih =>
    rw [spell_cons, List.getLast?_append, List.getLast?_append, ih, getLast?_ofChar,
      List.getLast?_cons]
    cases text.getLast? <;> rfl

/-- **The layout that a text has already** leaves it as it is. -/
theorem spell_plain (lineStart : Bool) (text : Chars) : plain.spell lineStart text = text := by
  induction text generalizing lineStart with
  | nil => rw [spell_nil]
  | cons c text ih =>
    rw [spell_cons, ih]
    cases lineStart <;> by_cases h : c = '\n' <;> simp [margin, ofChar, plain, h]

theorem margin_plain (lineStart : Bool) : plain.margin lineStart = [] := by
  cases lineStart <;> rfl

theorem inside_plain (text : Chars) : plain.inside text = text := by
  have h := plain.margin_append_inside false text
  rwa [spell_plain, margin_plain, margin_plain, List.nil_append, List.append_nil] at h

/-! ## What a template is cut by -/

/-- A solid text stands at the front of a text laid out when it stands at the front of the text. -/
theorem isPrefixOf_spell {needle : Chars} (hneedle : ∀ c ∈ needle, isSpace c = false)
    (text : Chars) :
    needle.isPrefixOf (layout.spell false text) = needle.isPrefixOf text := by
  induction text generalizing needle with
  | nil => rw [spell_nil]
  | cons c text ih =>
    by_cases hc : c = '\n'
    · subst hc
      obtain ⟨d, rest, hnewline, hd, -⟩ := layout.exists_newline
      have hleft := isPrefixOf_append_space hneedle hd [] (rest ++ layout.spell true text)
      have hright := isPrefixOf_append_space hneedle isSpace_lineFeed [] text
      rw [spell_lineFeed, hnewline]
      exact hleft.trans hright.symm
    · rw [layout.spell_cons_of_ne hc]
      cases needle with
      | nil => rfl
      | cons a needle =>
        rw [List.isPrefixOf_cons_cons, List.isPrefixOf_cons_cons,
          ih fun d hd => hneedle d (List.mem_cons_of_mem _ hd)]

/-- **A layout moves no solid text**: where one is found in a text, it is found behind the part
before it laid out. -/
theorem offsetOf?_spell {needle : Chars} (hneedle : Solid needle) (text : Chars) :
    offsetOf? needle (layout.spell false text)
      = (offsetOf? needle text).map fun n => (layout.inside (text.take n)).length := by
  induction text with
  | nil => rw [spell_nil, offsetOf?_nil hneedle]; rfl
  | cons c text ih =>
    by_cases hc : c = '\n'
    · subst hc
      rw [spell_lineFeed, offsetOf?_space_append hneedle layout.isSpace_newline,
        offsetOf?_cons (isPrefixOf_cons_space hneedle isSpace_lineFeed text)]
      cases text with
      | nil => rw [spell_nil, offsetOf?_nil hneedle]; rfl
      | cons d text =>
        rw [layout.spell_of_ne_nil true (List.cons_ne_nil d text),
          offsetOf?_space_append hneedle layout.isSpace_margin, ih, Option.map_map,
          Option.map_map, Option.map_map]
        refine congrArg (Option.map · _) (funext fun n => ?_)
        simp only [Function.comp_apply, List.take_succ_cons, inside_lineFeed, List.length_append,
          margin_true]
    · have hfront := layout.isPrefixOf_spell hneedle.2 (c :: text)
      rw [layout.spell_cons_of_ne hc] at hfront ⊢
      by_cases h : needle.isPrefixOf (c :: text) = true
      · rw [offsetOf?_of_isPrefixOf (hfront.trans h), offsetOf?_of_isPrefixOf h]
        rfl
      · have h : needle.isPrefixOf (c :: text) = false := Bool.eq_false_iff.mpr h
        rw [offsetOf?_cons (hfront.trans h), offsetOf?_cons h, ih, Option.map_map, Option.map_map]
        refine congrArg (Option.map · _) (funext fun n => ?_)
        simp only [Function.comp_apply, List.take_succ_cons, layout.inside_cons_of_ne hc,
          List.length_cons]

/-- Behind the margin of the first line, a solid text is found where it was. -/
theorem offsetOf?_spell_margin {needle : Chars} (hneedle : Solid needle) (lineStart : Bool)
    (text : Chars) :
    offsetOf? needle (layout.spell lineStart text)
      = (offsetOf? needle text).map fun n =>
          (layout.margin lineStart ++ layout.inside (text.take n)).length := by
  by_cases htext : text = []
  · subst htext
    rw [spell_nil, offsetOf?_nil hneedle]
    rfl
  · rw [layout.spell_of_ne_nil _ htext, offsetOf?_space_append hneedle layout.isSpace_margin,
      layout.offsetOf?_spell hneedle, Option.map_map]
    refine congrArg (Option.map · _) (funext fun n => ?_)
    rw [Function.comp_apply, List.length_append]

/-- **A layout moves no end of a tag**: free content is laid out inside the text. -/
theorem freeContent_spell {closing close : Chars} (hclosing : ∀ c ∈ closing, isSpace c = false)
    (hclose : Solid close) (text : Chars) :
    Pattern.freeContent closing close (layout.spell false text)
      = (Pattern.freeContent closing close text).map layout.inside := by
  induction text with
  | nil => rw [spell_nil, Pattern.freeContent_nil hclosing hclose]; rfl
  | cons c text ih =>
    by_cases hc : c = '\n'
    · subst hc
      rw [spell_lineFeed,
        Pattern.freeContent_space_append hclosing hclose layout.isSpace_newline,
        Pattern.freeContent_cons
          (Pattern.closes_cons_space hclosing hclose isSpace_lineFeed text)]
      cases text with
      | nil => rw [spell_nil, Pattern.freeContent_nil hclosing hclose]; rfl
      | cons d text =>
        rw [layout.spell_of_ne_nil true (List.cons_ne_nil d text),
          Pattern.freeContent_space_append hclosing hclose layout.isSpace_margin, ih,
          Option.map_map, Option.map_map, Option.map_map]
        refine congrArg (Option.map · _) (funext fun taken => ?_)
        simp only [Function.comp_apply, inside_lineFeed, margin_true]
    · have hfront : Pattern.closes closing close (layout.spell false (c :: text))
          = Pattern.closes closing close (c :: text) := by
        unfold Pattern.closes
        rw [layout.isPrefixOf_spell hclose.2,
          layout.isPrefixOf_spell (Solid.append hclosing hclose).2]
      rw [layout.spell_cons_of_ne hc] at hfront ⊢
      by_cases h : Pattern.closes closing close (c :: text) = true
      · rw [Pattern.freeContent_of_closes (hfront.trans h), Pattern.freeContent_of_closes h]
        rfl
      · have h : Pattern.closes closing close (c :: text) = false := Bool.eq_false_iff.mpr h
        rw [Pattern.freeContent_cons (hfront.trans h), Pattern.freeContent_cons h, ih,
          Option.map_map, Option.map_map]
        refine congrArg (Option.map · _) (funext fun taken => ?_)
        simp only [Function.comp_apply, layout.inside_cons_of_ne hc]

/-- A run inside a line is not moved by a layout. -/
theorem takeWhile_spell {p : Char → Bool} (hlineFeed : p '\n' = false)
    (hreturn : p '\r' = false) (text : Chars) :
    (layout.spell false text).takeWhile p = text.takeWhile p := by
  induction text with
  | nil => rw [spell_nil]
  | cons c text ih =>
    by_cases hc : c = '\n'
    · subst hc
      have hnewline : ∀ rest, (layout.newline ++ rest).takeWhile p = [] := by
        intro rest
        rcases layout.newline_eq with h | h <;> rw [h, List.cons_append] <;>
          simp only [List.takeWhile_cons, hlineFeed, hreturn, Bool.false_eq_true, if_false]
      rw [spell_lineFeed, hnewline, List.takeWhile_cons, hlineFeed, if_neg Bool.false_ne_true]
    · rw [layout.spell_cons_of_ne hc, List.takeWhile_cons, List.takeWhile_cons, ih]

/-! ## Words -/

/-- White space at the front of a text belongs to no word. -/
theorem words_space_append {blank : Chars} (hblank : ∀ c ∈ blank, isSpace c = true)
    (text : Chars) : words isSpace (blank ++ text) = words isSpace text := by
  induction blank with
  | nil => rfl
  | cons c blank ih =>
    rw [List.cons_append, words, if_pos (hblank c List.mem_cons_self)]
    exact ih fun d hd => hblank d (List.mem_cons_of_mem _ hd)

/-- A layout begins no word and ends none at the front. -/
theorem startsWord_inside (text : Chars) :
    startsWord isSpace (layout.inside text) = startsWord isSpace text := by
  cases text with
  | nil => rfl
  | cons c text =>
    by_cases hc : c = '\n'
    · subst hc
      obtain ⟨d, rest, hnewline, hd, -⟩ := layout.exists_newline
      rw [inside_lineFeed, hnewline, List.cons_append]
      simp only [startsWord, hd, isSpace_lineFeed]
    · rw [layout.inside_cons_of_ne hc]
      rfl

/-- **A layout keeps the words of a text.** -/
theorem words_inside (text : Chars) :
    words isSpace (layout.inside text) = words isSpace text := by
  induction text with
  | nil => rfl
  | cons c text ih =>
    by_cases hc : c = '\n'
    · subst hc
      have hindent : ∀ c ∈ layout.indent, isSpace c = true :=
        fun c hc => isSpace_of_isBlank (layout.indent_blank c hc)
      rw [inside_lineFeed, words_space_append layout.isSpace_newline,
        words_space_append hindent, ih, words, if_pos isSpace_lineFeed]
    · rw [layout.inside_cons_of_ne hc, words, words, startsWord_inside, ih]

theorem ofDefinition?_congr {left right : Chars}
    (h : words isSpace left = words isSpace right) :
    Delimiters.ofDefinition? left = Delimiters.ofDefinition? right := by
  unfold Delimiters.ofDefinition?
  split
  next a b hleft =>
    split
    next c d hright =>
      rw [hleft, hright, List.cons.injEq, List.cons.injEq] at h
      obtain ⟨rfl, rfl, -⟩ := h
      rfl
    next hnone => exact absurd (h.symm.trans hleft) (hnone a b)
  next hnone =>
    split
    next c d hright => exact absurd (h.trans hright) (hnone c d)
    · rfl

/-! ## The end of a line -/

/-- The layout can lay the text out: what ends its lines is not mistaken for something else. -/
def Fits (text : Chars) : Prop := layout.newline = ['\n'] ∨ '\r' ∉ text

theorem Fits.of_append {left right : Chars} (h : layout.Fits (left ++ right)) :
    layout.Fits right :=
  h.imp_right fun hmem hright => hmem (List.mem_append_right _ hright)

theorem dropWhile_spell {p : Char → Bool} (hlineFeed : p '\n' = false)
    (hreturn : p '\r' = false) (text : Chars) :
    (layout.spell false text).dropWhile p = layout.spell false (text.dropWhile p) := by
  have hrun : '\n' ∉ text.takeWhile p := lineFeed_not_mem_takeWhile hlineFeed text
  have hsplit : layout.spell false text
      = text.takeWhile p ++ layout.spell false (text.dropWhile p) := by
    rw [← layout.spell_append_of_not_mem hrun, List.takeWhile_append_dropWhile]
  have hrest := (layout.spell false text).takeWhile_append_dropWhile (p := p)
  rw [layout.takeWhile_spell hlineFeed hreturn] at hrest
  exact List.append_cancel_left (hrest.trans hsplit)

theorem lineEnd?_spell {text : Chars} (hfits : layout.Fits text) :
    Pattern.lineEnd? (layout.spell false text)
      = (Pattern.lineEnd? text).map (layout.spell false) := by
  cases text with
  | nil => rw [spell_nil]; rfl
  | cons c text =>
    by_cases hc : c = '\n'
    · subst hc
      rw [spell_lineFeed, Pattern.lineEnd?_lineFeed, Option.map_some,
        layout.spell_lineFeed, spell_nil, List.append_nil]
      rcases layout.newline_eq with h | h <;> rw [h] <;> rfl
    · rw [layout.spell_cons_of_ne hc]
      by_cases hr : c = '\r'
      · subst hr
        have hnewline : layout.newline = ['\n'] := hfits.resolve_right (by simp)
        cases text with
        | nil => rw [spell_nil]; rfl
        | cons d text =>
          by_cases hd : d = '\n'
          · subst hd
            rw [spell_lineFeed, hnewline, Pattern.lineEnd?_return_lineFeed, Option.map_some,
              layout.spell_cons_of_ne hc, spell_lineFeed, hnewline, spell_nil]
            rfl
          · rw [layout.spell_cons_of_ne hd, Pattern.lineEnd?_return_of_ne hd,
              Pattern.lineEnd?_return_of_ne hd]
            rfl
      · rw [Pattern.lineEnd?_of_ne hc hr, Pattern.lineEnd?_of_ne hc hr]
        rfl

/-- **The blank end of a line stays one.** -/
theorem endOfLine_spell {text : Chars} (hfits : layout.Fits text) :
    Pattern.endOfLine.match? (layout.spell false text)
      = (Pattern.endOfLine.match? text).map (layout.spell false) := by
  have hblank : '\n' ∉ text.takeWhile isBlank := lineFeed_not_mem_takeWhile (by decide) text
  have hrest : layout.Fits (text.dropWhile isBlank) := by
    rw [← List.takeWhile_append_dropWhile (p := isBlank) (l := text)] at hfits
    exact hfits.of_append
  rw [Pattern.endOfLine_match?, Pattern.endOfLine_match?,
    layout.takeWhile_spell (by decide) (by decide), layout.dropWhile_spell (by decide) (by decide),
    layout.lineEnd?_spell hrest, Option.map_map, Option.map_map]
  refine congrArg (Option.map · _) (funext fun ending => ?_)
  exact (layout.spell_append_of_not_mem hblank ending).symm

/-! ## Indenting a partial -/

/-- A line in front of other lines, laid out by its first character. -/
theorem unlines_cons_append (left right : Chars) (rows : List Chars) :
    unlines ((left ++ right) :: rows) = left ++ unlines (right :: rows) := by
  cases rows with
  | nil => rfl
  | cons row rows => exact List.append_assoc _ _ _

theorem indentLines_ne_nil (indent : Chars) {rows : List Chars} (h : rows ≠ []) :
    indentLines indent rows ≠ [] := by
  match rows, h with
  | [[]], _ => simp [indentLines]
  | [_ :: _], _ => simp [indentLines]
  | _ :: _ :: _, _ => simp [indentLines]

/-- Every line but an empty last one gets the indentation. -/
theorem indentLines_cons {indent row : Chars} {rows : List Chars} (h : row = [] → rows ≠ []) :
    indentLines indent (row :: rows) = (indent ++ row) :: indentLines indent rows := by
  cases rows with
  | nil =>
    show (if row = [] then [[]] else [indent ++ row]) = _
    rw [if_neg fun hrow => h hrow rfl]
    rfl
  | cons next rows => rfl

variable {indent : Chars} (hblank : ∀ c ∈ indent, isBlank c = true)

/-- What a text laid out behind its beginning says of the text laid out from there. -/
theorem spell_indented_true {text first : Chars} {rows : List Chars}
    (h : lines text = first :: rows)
    (hbehind : (indented indent hblank).spell false text
      = unlines (first :: indentLines indent rows)) :
    (indented indent hblank).spell true text = unlines (indentLines indent (lines text)) := by
  by_cases htext : text = []
  · subst htext
    rfl
  · have hline : first = [] → rows ≠ [] := by
      rintro rfl rfl
      have hjoin : unlines (lines text) = text := join_split '\n' text
      rw [h] at hjoin
      exact htext hjoin.symm
    rw [spell_of_ne_nil _ _ htext, hbehind, h, indentLines_cons hline]
    exact (unlines_cons_append indent first _).symm

/-- Behind its first line, a text is laid out by indenting its lines. -/
theorem spell_indented_false {text first : Chars} {rows : List Chars}
    (h : lines text = first :: rows) :
    (indented indent hblank).spell false text = unlines (first :: indentLines indent rows) := by
  induction text generalizing first rows with
  | nil =>
    cases h
    rfl
  | cons c text ih =>
    obtain ⟨line, others, hlines⟩ := List.exists_cons_of_ne_nil (split_ne_nil '\n' text)
    by_cases hc : c = '\n'
    · subst hc
      have hsplit : lines ('\n' :: text) = [] :: lines text := by
        rw [lines, split, if_pos rfl, lines]
      rw [hsplit] at h
      cases h
      rw [spell_lineFeed, spell_indented_true hblank hlines (ih hlines)]
      obtain ⟨row, rest, hrows⟩ := List.exists_cons_of_ne_nil
        (indentLines_ne_nil indent (split_ne_nil '\n' text))
      show '\n' :: unlines (indentLines indent (split '\n' text)) = _
      rw [lines, hrows]
      rfl
    · have hsplit : lines (c :: text) = (lines text).modifyHead (c :: ·) := by
        rw [lines, split, if_neg hc, lines]
      rw [hsplit, lines, hlines, List.modifyHead_cons] at h
      cases h
      rw [spell_cons_of_ne _ hc, ih hlines]
      exact (unlines_cons_append [c] line _).symm

/-- The end of a line is not moved by an indentation. -/
theorem spell_indented_ending {text : Chars} (h : '\n' ∉ text.dropLast) :
    (indented indent hblank).spell false text = text := by
  rcases List.eq_nil_or_concat text with rfl | ⟨init, c, rfl⟩
  · exact spell_nil _ _
  · rw [List.concat_eq_append, List.dropLast_concat] at h
    rw [List.concat_eq_append, spell_append_of_not_mem _ h]
    refine congrArg (init ++ ·) ?_
    by_cases hc : c = '\n'
    · rw [hc, spell_lineFeed, spell_nil, List.append_nil]
      rfl
    · rw [spell_cons_of_ne _ hc, spell_nil]

/-- **Indenting the lines of a partial is laying it out.** -/
theorem indentText_eq_spell (text : Chars) :
    indentText indent text = (indented indent hblank).spell true text := by
  obtain ⟨first, rows, hlines⟩ := List.exists_cons_of_ne_nil (split_ne_nil '\n' text)
  have hspell := spell_indented_true hblank hlines (spell_indented_false hblank hlines)
  unfold indentText
  by_cases hindent : indent = []
  · subst hindent
    rw [if_pos rfl]
    exact (spell_plain true text).symm
  · rw [if_neg hindent, hspell]

end Layout

end Mustache
