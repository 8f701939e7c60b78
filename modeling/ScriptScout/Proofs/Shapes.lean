import Mathlib.Data.Option.Basic
import Mathlib.Tactic.SplitIfs
import ScriptScout.Analysis.EventHook
import ScriptScout.Analysis.HttpCall
import ScriptScout.Analysis.Sink
import ScriptScout.Proofs.Text.Parts

/-!
# What the detectors look for

The shapes of requests, of sinks, and of events and navigation, as
relations between a node and the kind of finding that it is. They say
which names and literals a node has to show and nothing of the order in
which these are tried: where two shapes could both fit, the premises
keep them apart. Each detector decides by a chain of tests, and
`classify?_kind_iff`, `kind?_iff`, `callKind?_iff` and
`assignmentKind?_iff` say that the chains come to the same.
-/

namespace ScriptScout

/-! ## Views of a node -/

namespace Node

variable {n : Node} {name objectName : String}

theorem isIdentifier_iff : n.isIdentifier name = true ↔ n.identifier? = some name := by
  rw [isIdentifier, beq_iff_eq]

theorem eq_identifier (h : n.identifier? = some name) : ∃ span, n = .identifier span name := by
  cases n with
  | identifier span name' => exact ⟨span, congrArg _ (Option.some.inj h)⟩
  | _ => cases h

theorem identifier?_of_member? {p : Node × String} (h : n.member? = some p) :
    n.identifier? = none := by
  cases n with
  | identifier => cases h
  | _ => rfl

theorem memberName?_iff :
    n.memberName? = some name ↔ ∃ receiver, n.member? = some (receiver, name) := by
  rw [memberName?, Option.map_eq_some_iff]
  constructor
  · rintro ⟨⟨receiver, name'⟩, hmember, rfl⟩
    exact ⟨receiver, hmember⟩
  · rintro ⟨receiver, hmember⟩
    exact ⟨_, hmember, rfl⟩

/-- Only a member access written with a dot has a member name. -/
theorem exists_eq_member (h : n.memberName? = some name) :
    ∃ span receiver property, n = .member span receiver property false := by
  cases n with
  | member span receiver property computed =>
      cases computed with
      | false => exact ⟨span, receiver, property, rfl⟩
      | true => cases h
  | _ => cases h

theorem any_member?_iff : n.member?.any (·.2 == name) = true ↔ n.memberName? = some name := by
  rw [memberName?]
  cases n.member? with
  | none => simp
  | some p => simp

theorem isMemberOf_iff : n.isMemberOf objectName name = true ↔
    ∃ receiver, n.member? = some (receiver, name) ∧ receiver.identifier? = some objectName := by
  rw [isMemberOf]
  cases n.member? with
  | none => simp
  | some p =>
      obtain ⟨receiver, name'⟩ := p
      simp only [Bool.and_eq_true, beq_iff_eq, isIdentifier_iff, Option.some.injEq,
        Prod.mk.injEq]
      constructor
      · rintro ⟨rfl, hreceiver⟩
        exact ⟨receiver, ⟨rfl, rfl⟩, hreceiver⟩
      · rintro ⟨_, ⟨rfl, rfl⟩, hreceiver⟩
        exact ⟨rfl, hreceiver⟩

theorem any_member?_contains_iff {names : List String} :
    (n.member?.any fun p => p.1.isIdentifier objectName && names.contains p.2) = true ↔
      ∃ name ∈ names, n.isMemberOf objectName name = true := by
  rw [Option.any_eq_true]
  simp only [isMemberOf_iff, Bool.and_eq_true, isIdentifier_iff, List.contains_iff_mem]
  constructor
  · rintro ⟨⟨receiver, name⟩, hmember, hreceiver, hname⟩
    exact ⟨name, hname, receiver, hmember, hreceiver⟩
  · rintro ⟨name, hname, receiver, hmember, hreceiver⟩
    exact ⟨(receiver, name), hmember, hreceiver, hname⟩

theorem memberName?_of_isMemberOf (h : n.isMemberOf objectName name = true) :
    n.memberName? = some name := by
  obtain ⟨receiver, hmember, -⟩ := isMemberOf_iff.mp h
  exact memberName?_iff.mpr ⟨receiver, hmember⟩

theorem identifier?_of_memberName? (h : n.memberName? = some name) : n.identifier? = none := by
  obtain ⟨receiver, hmember⟩ := memberName?_iff.mp h
  exact identifier?_of_member? hmember

end Node

/-! ## Requests -/

namespace HttpCall

/-- The calls and constructions that make requests. -/
inductive Makes : Node → HttpKind → Prop
  | fetch {span : Span} {callee : Node} {arguments : List Node} :
      callee.identifier? = some "fetch" → Makes (.call span callee arguments) .fetch
  | axios {span : Span} {callee : Node} {arguments : List Node} :
      callee.identifier? = some "axios" → Makes (.call span callee arguments) .axios
  | axiosMethod {span : Span} {callee receiver : Node} {method : String}
      {arguments : List Node} :
      callee.member? = some (receiver, method) → receiver.identifier? = some "axios" →
      method ∈ axiosMethods → Makes (.call span callee arguments) .axios
  | jquery {span : Span} {callee receiver : Node} {method : String} {arguments : List Node} :
      callee.member? = some (receiver, method) →
      receiver.identifier? = some "$" ∨ receiver.identifier? = some "jQuery" →
      method ∈ jqueryMethods → Makes (.call span callee arguments) .jquery
  | load {span : Span} {callee receiver : Node} {arguments : List Node} :
      callee.member? = some (receiver, "load") → Makes (.call span callee arguments) .jquery
  | opened {span : Span} {callee receiver : Node} {verb : String} {arguments : List Node} :
      callee.member? = some (receiver, "open") → receiver.identifier? ≠ some "window" →
      literalAt arguments 0 = some verb → Text.upper verb ∈ verbs →
      Makes (.call span callee arguments) .method
  | xhr {span : Span} {callee : Node} {arguments : List Node} :
      callee.identifier? = some "XMLHttpRequest" → Makes (.construct span callee arguments) .xhr

theorem makes_of_ofName? {name : String} {arguments : List Node} {kind : HttpKind} (span : Span)
    {callee : Node} (hcallee : callee.identifier? = some name)
    (h : (ofName? name arguments).map (·.1) = some kind) :
    Makes (.call span callee arguments) kind := by
  simp only [ofName?, beq_iff_eq] at h
  split_ifs at h with hfetch haxios
  · obtain rfl := Option.some.inj h
    exact .fetch (hfetch ▸ hcallee)
  · obtain rfl := Option.some.inj h
    exact .axios (haxios ▸ hcallee)
  · cases h

theorem makes_of_ofMember? {receiver : Node} {method : String} {arguments : List Node}
    {kind : HttpKind} (span : Span) {callee : Node}
    (hcallee : callee.member? = some (receiver, method))
    (h : (ofMember? receiver method arguments).map (·.1) = some kind) :
    Makes (.call span callee arguments) kind := by
  simp only [ofMember?, Bool.and_eq_true, Bool.or_eq_true, Bool.not_eq_true', beq_iff_eq,
    ← Bool.not_eq_true, Node.isIdentifier_iff, List.contains_iff_mem] at h
  split at h
  · next haxios =>
      obtain rfl := Option.some.inj h
      exact .axiosMethod hcallee haxios.1 haxios.2
  · split at h
    · next hjquery =>
        obtain rfl := Option.some.inj h
        exact .jquery hcallee hjquery.1 hjquery.2
    · split at h
      · next hload =>
          obtain rfl := Option.some.inj h
          exact .load (hload ▸ hcallee)
      · split at h
        · next hopen =>
            simp only [Option.map_eq_some_iff, Option.bind_eq_bind, Option.bind_eq_some_iff,
              Option.guard_eq_some', Option.pure_def, Option.some.injEq, exists_const] at h
            obtain ⟨_, ⟨_, ⟨verb, hverb, rfl⟩, hmem, rfl⟩, rfl⟩ := h
            exact .opened (hopen.1 ▸ hcallee) hopen.2 hverb hmem
        · cases h

theorem classify?_of_makes {n : Node} {kind : HttpKind} (h : Makes n kind) :
    (classify? n).map (·.1) = some kind := by
  cases h with
  | fetch hname => simp [classify?, hname, ofName?]
  | axios hname => simp [classify?, hname, ofName?]
  | axiosMethod hmember haxios hmethod =>
      simp [classify?, Node.identifier?_of_member? hmember, hmember, ofMember?,
        Node.isIdentifier, haxios, hmethod]
  | jquery hmember hjquery hmethod =>
      rcases hjquery with h | h <;>
        simp [classify?, Node.identifier?_of_member? hmember, hmember, ofMember?,
          Node.isIdentifier, h, hmethod]
  | load hmember =>
      simp [classify?, Node.identifier?_of_member? hmember, hmember, ofMember?, axiosMethods,
        jqueryMethods]
  | opened hmember hwindow hverb hmem =>
      simp [classify?, Node.identifier?_of_member? hmember, hmember, ofMember?, axiosMethods,
        jqueryMethods, Node.isIdentifier, hwindow, hverb, hmem, guard]
  | xhr hname => simp [classify?, Node.isIdentifier, hname]

/-- A node is classified exactly if it has one of the shapes. -/
theorem classify?_kind_iff {n : Node} {kind : HttpKind} :
    (classify? n).map (·.1) = some kind ↔ Makes n kind := by
  refine ⟨fun h => ?_, classify?_of_makes⟩
  cases n with
  | call span callee arguments =>
      simp only [classify?] at h
      split at h
      · next name hname => exact makes_of_ofName? span hname h
      · split at h
        · next receiver method hmember => exact makes_of_ofMember? span hmember h
        · cases h
  | construct span callee arguments =>
      simp only [classify?, Node.isIdentifier_iff] at h
      split at h
      · next hxhr =>
          obtain rfl := Option.some.inj h
          exact .xhr hxhr
      · cases h
  | _ => cases h

end HttpCall

/-! ## Sinks -/

namespace Sink

/-- The callee writes to the document. -/
def WritesDocument (callee : Node) : Prop :=
  callee.isMemberOf "document" "write" = true ∨ callee.isMemberOf "document" "writeln" = true

instance (callee : Node) : Decidable (WritesDocument callee) :=
  inferInstanceAs (Decidable (_ ∨ _))

/-- The nodes that turn text into markup or code. A call that is none
of the other sinks may still set markup unchecked. -/
inductive Sinks (scene : Scene) : Node → SinkKind → Prop
  | eval {span : Span} {callee : Node} {arguments : List Node} :
      callee.identifier? = some "eval" → Sinks scene (.call span callee arguments) .eval
  | write {span : Span} {callee : Node} {arguments : List Node} :
      WritesDocument callee → Sinks scene (.call span callee arguments) .write
  | postMessage {span : Span} {callee : Node} {arguments : List Node} :
      callee.memberName? = some "postMessage" →
      Sinks scene (.call span callee arguments) .postMessage
  | markupCall {span : Span} {callee : Node} {arguments : List Node} :
      callee.identifier? ≠ some "eval" → ¬WritesDocument callee →
      callee.memberName? ≠ some "postMessage" →
      isMember callee = true ∨ (∃ a ∈ arguments, setsMarkup a = true) →
      uncheckedMarkup.toList <:+: (scene.text span).toList →
      Sinks scene (.call span callee arguments) .dangerousHtml
  | innerHtml {span : Span} {operator : String} {target value : Node} :
      target.memberName? = some "innerHTML" →
      Sinks scene (.assignment span operator target value) .innerHtml
  | domain {span : Span} {operator : String} {target value : Node} :
      target.isMemberOf "document" "domain" = true →
      Sinks scene (.assignment span operator target value) .domain
  | markupAttribute {span : Span} {value : Option Node} :
      Sinks scene (.jsxAttribute span uncheckedMarkup value) .dangerousHtml

theorem memberName?_of_writesDocument {callee : Node} (h : WritesDocument callee) :
    callee.memberName? = some "write" ∨ callee.memberName? = some "writeln" :=
  h.imp Node.memberName?_of_isMemberOf Node.memberName?_of_isMemberOf

theorem writesDocument_iff {callee : Node} :
    (callee.member?.any fun p => p.1.isIdentifier "document"
      && (p.2 == "write" || p.2 == "writeln")) = true ↔ WritesDocument callee := by
  rw [WritesDocument, Node.isMemberOf, Node.isMemberOf]
  cases callee.member? with
  | none => simp
  | some p =>
      simp only [Option.any_some, Bool.and_eq_true, Bool.or_eq_true, beq_iff_eq]
      rw [and_comm, or_and_right]

theorem callKind?_iff {scene : Scene} {span : Span} {callee : Node} {arguments : List Node}
    {kind : SinkKind} :
    callKind? scene span callee arguments = some kind ↔
      Sinks scene (.call span callee arguments) kind := by
  simp only [callKind?, writesDocument_iff, Node.any_member?_iff, Node.isIdentifier_iff,
    Bool.and_eq_true, Bool.or_eq_true, List.any_eq_true, Text.contains_iff]
  constructor
  · intro h
    split_ifs at h with heval hwrite hpost hmarkup
    · obtain rfl := Option.some.inj h
      exact .eval heval
    · obtain rfl := Option.some.inj h
      exact .write hwrite
    · obtain rfl := Option.some.inj h
      exact .postMessage hpost
    · obtain rfl := Option.some.inj h
      exact .markupCall heval hwrite hpost hmarkup.1 hmarkup.2
  · intro h
    cases h with
    | eval heval => rw [if_pos heval]
    | write hwrite =>
        have heval : callee.identifier? = none :=
          (memberName?_of_writesDocument hwrite).elim Node.identifier?_of_memberName?
            Node.identifier?_of_memberName?
        rw [heval, if_neg (by decide), if_pos hwrite]
    | postMessage hpost =>
        have hwrite : ¬WritesDocument callee := by
          intro hwrite
          rcases memberName?_of_writesDocument hwrite with hname | hname
          all_goals exact absurd (hpost.symm.trans hname) (by decide)
        rw [Node.identifier?_of_memberName? hpost, if_neg (by decide), if_neg hwrite, if_pos hpost]
    | markupCall heval hwrite hpost hmarkup htext =>
        rw [if_neg heval, if_neg hwrite, if_neg hpost, if_pos ⟨hmarkup, htext⟩]

theorem assignmentKind?_iff {scene : Scene} {span : Span} {operator : String}
    {target value : Node} {kind : SinkKind} :
    assignmentKind? target = some kind ↔
      Sinks scene (.assignment span operator target value) kind := by
  simp only [assignmentKind?, beq_iff_eq]
  constructor
  · intro h
    split_ifs at h with hinner hdomain
    · obtain rfl := Option.some.inj h
      exact .innerHtml hinner
    · obtain rfl := Option.some.inj h
      exact .domain hdomain
  · intro h
    cases h with
    | innerHtml hinner => rw [if_pos hinner]
    | domain hdomain =>
        rw [Node.memberName?_of_isMemberOf hdomain, if_neg (by decide), if_pos hdomain]

/-- A node has a kind of sink exactly if it has one of the shapes. -/
theorem kind?_iff {scene : Scene} {n : Node} {kind : SinkKind} :
    kind? scene n = some kind ↔ Sinks scene n kind := by
  cases n with
  | call span callee arguments => exact callKind?_iff
  | assignment span operator target value => exact assignmentKind?_iff
  | jsxAttribute span name value =>
      simp only [kind?, beq_iff_eq]
      constructor
      · intro h
        split_ifs at h with hname
        obtain rfl := Option.some.inj h
        exact hname ▸ .markupAttribute
      · intro h
        cases h
        rw [if_pos rfl]
  | _ =>
      constructor
      · intro h
        cases h
      · intro h
        cases h

end Sink

/-! ## Events and navigation -/

namespace EventHook

/-- The nodes to which an assignment moves the page: the location of a
window or a document, a part of the location, and a part of one of the
parts that make up the address. -/
inductive MovesPage : Node → Prop
  | windowLocation {n : Node} : n.isMemberOf "window" "location" = true → MovesPage n
  | documentLocation {n : Node} : n.isMemberOf "document" "location" = true → MovesPage n
  | part {n receiver : Node} {name : String} :
      n.member? = some (receiver, name) → receiver.identifier? = some "location" → MovesPage n
  | windowPart {n receiver : Node} {name : String} :
      n.member? = some (receiver, name) → receiver.isMemberOf "window" "location" = true →
      MovesPage n
  | partOfPart {n receiver : Node} {name part : String} :
      n.member? = some (receiver, name) → receiver.isMemberOf "location" part = true →
      part ∈ ["href", "hash", "pathname", "search"] → MovesPage n

theorem MovesPage.exists_memberName? {n : Node} (h : MovesPage n) :
    ∃ name, n.memberName? = some name := by
  cases h with
  | windowLocation hn => exact ⟨_, Node.memberName?_of_isMemberOf hn⟩
  | documentLocation hn => exact ⟨_, Node.memberName?_of_isMemberOf hn⟩
  | part hmember => exact ⟨_, Node.memberName?_iff.mpr ⟨_, hmember⟩⟩
  | windowPart hmember => exact ⟨_, Node.memberName?_iff.mpr ⟨_, hmember⟩⟩
  | partOfPart hmember => exact ⟨_, Node.memberName?_iff.mpr ⟨_, hmember⟩⟩

/-- The tests on a target that is a member, in the words of the
shapes. -/
theorem isLocationTarget_of_member? {n receiver : Node} {name : String}
    (h : n.member? = some (receiver, name)) :
    isLocationTarget n = true ↔
      (n.isMemberOf "window" "location" = true ∨ n.isMemberOf "document" "location" = true)
      ∨ (receiver.identifier? = some "location" ∨ receiver.isMemberOf "window" "location" = true)
      ∨ ∃ part ∈ locationParts, receiver.isMemberOf "location" part = true := by
  simp only [isLocationTarget, h, Bool.or_eq_true, Node.isIdentifier_iff,
    Node.any_member?_contains_iff]

theorem isLocationTarget_iff {n : Node} : isLocationTarget n = true ↔ MovesPage n := by
  cases hmember : n.member? with
  | none =>
      have hname : n.memberName? = none := by rw [Node.memberName?, hmember]; rfl
      constructor
      · intro h
        simp [isLocationTarget, Node.isMemberOf, hmember] at h
      · intro h
        obtain ⟨name, hsome⟩ := h.exists_memberName?
        rw [hname] at hsome
        cases hsome
  | some p =>
      obtain ⟨receiver, name⟩ := p
      rw [isLocationTarget_of_member? hmember]
      constructor
      · rintro ((hwindow | hdocument) | (hpart | hwindow) | ⟨part, hpart, hinner⟩)
        · exact .windowLocation hwindow
        · exact .documentLocation hdocument
        · exact .part hmember hpart
        · exact .windowPart hmember hwindow
        · exact .partOfPart hmember hinner hpart
      · intro h
        have hsame {r : Node} {name' : String} (hn : n.member? = some (r, name')) :
            r = receiver := congrArg Prod.fst (Option.some.inj (hn.symm.trans hmember))
        cases h with
        | windowLocation hwindow => exact .inl (.inl hwindow)
        | documentLocation hdocument => exact .inl (.inr hdocument)
        | part hn hpart => exact .inr (.inl (.inl (hsame hn ▸ hpart)))
        | windowPart hn hwindow => exact .inr (.inl (.inr (hsame hn ▸ hwindow)))
        | partOfPart hn hinner hpart => exact .inr (.inr ⟨_, hpart, hsame hn ▸ hinner⟩)

/-- The callees whose call is an event. -/
inductive Calls : Node → EventKind → Prop
  | listener {callee : Node} :
      callee.memberName? = some "addEventListener" → Calls callee .listener
  | windowOpen {callee : Node} :
      callee.isMemberOf "window" "open" = true → Calls callee .windowOpen
  | bareOpen {callee : Node} : callee.identifier? = some "open" → Calls callee .windowOpen

theorem callKind?_iff {callee : Node} {kind : EventKind} :
    callKind? callee = some kind ↔ Calls callee kind := by
  simp only [callKind?, beq_iff_eq, Bool.or_eq_true, Node.isIdentifier_iff]
  constructor
  · intro h
    split_ifs at h with hlisten hopen
    · obtain rfl := Option.some.inj h
      exact .listener hlisten
    · obtain rfl := Option.some.inj h
      exact hopen.elim .windowOpen .bareOpen
  · intro h
    cases h with
    | listener hlisten => rw [if_pos hlisten]
    | windowOpen hopen =>
        rw [Node.memberName?_of_isMemberOf hopen, if_neg (by decide), if_pos (.inl hopen)]
    | bareOpen hopen =>
        have hlisten : callee.memberName? ≠ some "addEventListener" := by
          intro hlisten
          rw [Node.identifier?_of_memberName? hlisten] at hopen
          cases hopen
        rw [if_neg hlisten, if_pos (.inr hopen)]

/-- The targets whose assignment is an event. A target that is named
for a handler is one, whatever it is a part of. -/
inductive Writes : Node → EventKind → Prop
  | onMessage {target : Node} :
      target.memberName? = some "onmessage" → Writes target .onMessage
  | onHashChange {target : Node} :
      target.memberName? = some "onhashchange" → Writes target .onHashChange
  | location {target : Node} :
      target.memberName? ≠ some "onmessage" → target.memberName? ≠ some "onhashchange" →
      MovesPage target → Writes target .location

theorem assignmentKind?_iff {target : Node} {kind : EventKind} :
    assignmentKind? target = some kind ↔ Writes target kind := by
  simp only [assignmentKind?, beq_iff_eq]
  constructor
  · intro h
    split_ifs at h with hmessage hhash hlocation
    · obtain rfl := Option.some.inj h
      exact .onMessage hmessage
    · obtain rfl := Option.some.inj h
      exact .onHashChange hhash
    · obtain rfl := Option.some.inj h
      exact .location hmessage hhash (isLocationTarget_iff.mp hlocation)
  · intro h
    cases h with
    | onMessage hmessage => rw [if_pos hmessage]
    | onHashChange hhash => rw [if_neg (by rw [hhash]; decide), if_pos hhash]
    | location hmessage hhash hlocation =>
        rw [if_neg hmessage, if_neg hhash, if_pos (isLocationTarget_iff.mpr hlocation)]

theorem isLocationRead_iff {n : Node} : isLocationRead n = true ↔
    ∃ name ∈ ["href", "hash", "pathname", "search", "replace", "assign"],
      n.isMemberOf "location" name = true :=
  Node.any_member?_contains_iff

/-- What is reported when read moves the page when written. -/
theorem writes_of_isLocationRead {n : Node} (h : isLocationRead n = true) :
    Writes n .location := by
  obtain ⟨name, hname, hn⟩ := isLocationRead_iff.mp h
  obtain ⟨receiver, hmember, hreceiver⟩ := Node.isMemberOf_iff.mp hn
  have hhandler : ∀ name ∈ locationReads, name ≠ "onmessage" ∧ name ≠ "onhashchange" := by
    decide
  obtain ⟨hmessage, hhash⟩ := hhandler name hname
  have hnamed := Node.memberName?_of_isMemberOf hn
  refine .location ?_ ?_ (.part hmember hreceiver)
  · rwa [hnamed, ne_eq, Option.some.injEq]
  · rwa [hnamed, ne_eq, Option.some.injEq]

end EventHook

end ScriptScout
