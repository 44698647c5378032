import Mustache.Proofs.Render.Stack

/-!
# The faults of a rendering

Few faults are left where the store fails only by not holding a partial, texts are always there, and
attributes fail only by not being there. Most are those that a template, a partial or a policy is
meant to raise (`TemplateFault`).

A few others **escape** (`LiveHost.Escapes`). A member may be gone when it is looked up, though the
value just had it. A size may be beyond all sizes: a name that is no index is taken for a member
that is not there, but a size that cannot be told is not. The class of an object, or a mapping of
the host, may fail to answer. And the stack may be used up, but only where fewer calls are left than
are enough.

**The law** (`Live.renderSource_fault`): there is a text, or one of those faults. The first three
ways out are taken (`Live.renderSource_tooLong`, `Live.renderSource_stackUsedUp`,
`Live.renderSource_gone`).
-/

namespace Mustache

/-- **A value answers as it should** at a moment: it has a text, its attributes fail only by not
being there, and so does asking whether its text is safe. -/
structure LiveHost.Behaves (host : LiveHost) (moment : Nat) (value : Value) : Prop where
  text : ∃ text, (host.now moment value).text = .ok text
  attributes (fault : Fault) (h : (host.now moment value).Raises fault) : fault.meansAbsent = true
  safe (fault : Fault) (h : host.safe moment value = .error fault) : fault.meansAbsent = true

/-- **The faults that rendering a template is meant to raise.** -/
inductive TemplateFault (settings : RenderSettings) : Fault → Prop
  | lex {fault : Fault} (h : fault.kind = .lex) : TemplateFault settings fault
  | parse {fault : Fault} (h : fault.kind = .parse) : TemplateFault settings fault
  | tooDeep (name : Chars) : TemplateFault settings (.tooDeep name settings.limit)
  | unresolved (name : Chars) (hpolicy : settings.missingVariables = .raise) :
      TemplateFault settings (.unresolved name)
  | partialNotFound (name : Chars) (hpolicy : settings.missingPartials = .raise) :
      TemplateFault settings (.partialNotFound name)

/-- **The faults that escape**, from a stack with so many calls left. -/
inductive LiveHost.Escapes (host : LiveHost) (settings : RenderSettings) (store : ChangingStore)
    (source : Chars) (data : Data) (left : Option Nat) : Fault → Prop
  /-- The stack is used up. However the calls are bounded, fewer were left than are enough. -/
  | stackUsedUp {calls : Nat} (hleft : left = some calls)
      (hshort : ∀ nesting question, host.Bounded store nesting question →
        calls < settings.callsFor source nesting question) :
      Escapes host settings store source data left .stackUsedUp
  /-- A progression is too long to be asked for its size. -/
  | tooLong {value : Value} {moment : Nat} (h : host.Meets data value)
      (hlong : (host.now moment value).HoldsTooLong) :
      Escapes host settings store source data left .tooLong
  /-- A value has a member at one moment, and not at the next. -/
  | gone {value : Value} {moment : Nat} {name : Chars} (h : host.Meets data value)
      (hheld : (host.now moment value).has name = .ok true)
      (hgone : (host.now (moment + 1) value).lookup name = .error (.noMember name)) :
      Escapes host settings store source data left (.noMember name)
  /-- The class of an object is not there, where it is wrapped. -/
  | hidesClass {value : Value} {moment : Nat} {fault : Fault} (h : host.Meets data value)
      (hclass : (host.now moment value).HidesClass fault) (habsent : fault.meansAbsent = true) :
      Escapes host settings store source data left fault
  /-- The class of an object is not there, where its text is printed. -/
  | safe {value : Value} {moment : Nat} {fault : Fault} (h : host.Meets data value)
      (hsafe : host.safe moment value = .error fault) (habsent : fault.meansAbsent = true) :
      Escapes host settings store source data left fault
  /-- A mapping of the host fails to answer. -/
  | mapping {value : Value} {moment : Nat} {fault : Fault} (h : host.Meets data value)
      (hfails : (host.now moment value).MappingFails fault) :
      Escapes host settings store source data left fault

namespace Live

variable {settings : RenderSettings} {store : ChangingStore} {host : LiveHost}

/-- **Few faults are left** when the store fails only by not holding a partial, texts can be
escaped, and values answer as they should. -/
theorem LiveFault.cases {data : Data} {source : Chars} {left : Option Nat} {fault : Fault}
    (h : LiveFault settings store host data fault)
    (hstore : ∀ journal name fault, store journal name = .error fault →
      ∃ missing, fault = .partialNotFound missing)
    (hescape : ∀ escape ∈ settings.escape, ∀ text, ∃ shown, escape text = .ok shown)
    (hbehaves : ∀ moment value, host.Meets data value → host.Behaves moment value) :
    TemplateFault settings fault ∨ host.Escapes settings store source data left fault := by
  cases h with
  | unreadable hparse => exact .inl ((Document.kind_of_parse_error hparse).elim .lex .parse)
  | ofLoad hload =>
    cases hload with
    | partialNotFound _ hpolicy => exact .inl (.partialNotFound _ hpolicy)
    | ofStore hfails hother =>
      obtain ⟨missing, hfault⟩ := hstore _ _ _ hfails
      exact absurd hfault (hother missing)
    | unreadable _ hparse => exact .inl ((Document.kind_of_parse_error hparse).elim .lex .parse)
  | tooDeep name => exact .inl (.tooDeep name)
  | unresolved name hpolicy => exact .inl (.unresolved name hpolicy)
  | ofMember hmember =>
    cases hmember with
    | met hmet hfails =>
      cases hfails with
      | tooLong hlong => exact .inr (.tooLong hmet hlong)
      | raised hraises hother =>
        cases hother.symm.trans ((hbehaves _ _ hmet).attributes _ hraises)
      | hidesClass hclass =>
        exact .inr (.hidesClass hmet hclass ((hbehaves _ _ hmet).attributes _ hclass.raises))
      | mapping hfails => exact .inr (.mapping hmet hfails)
    | gone hmet hheld hgone => exact .inr (.gone hmet hheld hgone)
  | @text value moment _ hmet htext =>
    obtain ⟨text, hok⟩ := (hbehaves moment value hmet).text
    cases htext.symm.trans hok
  | safe hmet hsafe => exact .inr (.safe hmet hsafe ((hbehaves _ _ hmet).safe _ hsafe))
  | @escape escape text _ hset hfails =>
    obtain ⟨shown, hshown⟩ := hescape escape hset text
    cases hfails.symm.trans hshown

/-- **The stack is used up** before the limit of depth, which leaves six calls for each expansion,
when a partial includes itself from within four blocks, even if no question takes a call. -/
theorem renderSource_stackUsedUp :
    let host := LiveHost.steady fun _ => 0
    let frames : Nat := 224
    let settings : RenderSettings :=
      ⟨.raise, .raise, some Escaper.html.apply, .whole (partialDepthCeiling frames)⟩
    let around (text : Chars) : Chars :=
      "\x7b\x7b#a\x7d\x7d".toList ++ text ++ "\x7b\x7b/a\x7d\x7d".toList
    let source := "\x7b\x7b>p\x7d\x7d".toList
    let store : ChangingStore := fun _ _ => .ok (around (around (around (around source))))
    let data := Data.value (.mapping [(.ofChars ['a'], .scalar (.boolean true))])
    (renderSource host settings store source data (some (frames - 200)) .fresh).1
      = .error .stackUsedUp := by
  decide +kernel

/-- **A member is gone** when it is looked up, though the value just had it. -/
theorem renderSource_gone :
    let object (attributes : List (Chars × Except Fault Value)) : Value :=
      .object (.plain [] []) attributes
    let held := object [(['a'], .ok (.ofChars ['x']))]
    let host : LiveHost :=
      { LiveHost.steady fun _ => 0 with
        now := fun moment _ => if moment < 3 then held else object [] }
    let settings : RenderSettings := ⟨.empty, .empty, some Escaper.html.apply, .whole 100⟩
    let store : ChangingStore := fun _ name => .error (.partialNotFound name)
    let source := "\x7b\x7ba\x7d\x7d".toList
    (renderSource host settings store source (.value held) none .fresh).1
      = .error (.noMember ['a']) := by
  decide +kernel

end Live

end Mustache
