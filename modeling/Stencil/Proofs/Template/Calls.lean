import Stencil.Template.Writer

/-!
# Calls in any order

Hooks may call a writer in any order and go on after a call that was refused. Whatever they call,
a document that is finished stays as it is, and a refused call changes nothing, except that one that
ends a container takes the innermost one away.
-/

namespace Stencil.Template

/-- A call of a writer. -/
inductive Call where
  | name (name : String)
  | startObject
  | endObject
  | startArray
  | endArray
  | value (v : Json)
  | property (name : String) (v : Json)

/-- Whether the call ends a container. -/
def Call.isEnd : Call → Bool
  | endObject | endArray => true
  | _ => false

/-- Whether a value may come next in the container. -/
def Frame.takesValue : Frame → Bool
  | object _ none => false
  | _ => true

namespace Writer

def call (w : Writer) : Call → Except WriterFault Unit × Writer
  | .name name => w.writeName name
  | .startObject => w.startObject
  | .endObject => w.endObject
  | .startArray => w.startArray
  | .endArray => w.endArray
  | .value v => w.writeValue v
  | .property name v => w.writeProperty name v

/-- The writer behind calls, refused ones among them. -/
def after (w : Writer) (calls : List Call) : Writer := calls.foldl (fun w c => (w.call c).2) w

/-- Without the innermost container, if there is one. -/
def dropped (w : Writer) : Writer := { w with stack := w.stack.tail }

/-- What holds of a writer whatever was called: nothing is open around a finished document, and the
containers around the innermost one wait for the value that it is to become. -/
structure Sound (w : Writer) : Prop where
  closed : w.root.isSome = true → w.stack = []
  waiting : ∀ frame ∈ w.stack.tail, frame.takesValue = true

/-! ## Values -/

section

variable {w : Writer}

theorem slotFault?_eq_none_iff :
    w.slotFault? = none ↔
      (∀ frame ∈ w.stack.head?, frame.takesValue = true) ∧ (w.stack = [] → w.root = none) := by
  unfold slotFault?
  rcases w.stack with _ | ⟨⟨ms, _ | name⟩ | xs, rest⟩
  · cases w.root <;> simp
  all_goals simp [Frame.takesValue]

theorem attach_ok (h : ∀ frame ∈ w.stack.head?, frame.takesValue = true) (v : Json) :
    (w.attach v).1 = .ok () := by
  unfold attach
  rcases hs : w.stack with _ | ⟨⟨ms, _ | name⟩ | xs, rest⟩
  · rfl
  · rw [hs] at h
    have := h _ rfl
    cases this
  · rfl
  · rfl

theorem attach_shape (v : Json) :
    (w.attach v).2.stack.tail = w.stack.tail ∧
      ((w.attach v).2.stack = [] ↔ w.stack = []) ∧
      (w.stack ≠ [] → (w.attach v).2.root = w.root) := by
  unfold attach
  rcases hs : w.stack with _ | ⟨⟨ms, _ | name⟩ | xs, rest⟩ <;> simp [hs]

theorem Sound.attach (h : w.Sound) (v : Json) : (w.attach v).2.Sound := by
  obtain ⟨htail, hempty, hroot⟩ := attach_shape (w := w) v
  refine ⟨fun hsome => ?_, fun frame hframe => h.waiting frame (htail ▸ hframe)⟩
  by_cases hs : w.stack = []
  · exact hempty.2 hs
  · rw [hroot hs] at hsome
    exact absurd (h.closed hsome) hs

theorem Sound.dropped (h : w.Sound) : w.dropped.Sound := by
  refine ⟨fun hsome => ?_, fun frame hframe => h.waiting frame ?_⟩
  · have hs := h.closed hsome
    simp [Writer.dropped, hs]
  · exact List.mem_of_mem_tail hframe

theorem Sound.dropped_attach_ok (h : w.Sound) (v : Json) : (w.dropped.attach v).1 = .ok () := by
  refine attach_ok (fun frame hframe => h.waiting frame ?_) v
  exact List.mem_of_mem_head? hframe

end

/-! ## What a call does -/

/-- A call that is not refused, and where it leads. -/
inductive Writes : Writer → Call → Writer → Prop where
  | name {ms : Json.Members} {rest : List Frame} {root : Option Json} (name : String) :
    Writes ⟨.object ms none :: rest, root⟩ (.name name) ⟨.object ms (some name) :: rest, root⟩
  | startObject {w : Writer} : w.slotFault? = none →
    Writes w .startObject ⟨.object [] none :: w.stack, w.root⟩
  | endObject {ms : Json.Members} {rest : List Frame} {root : Option Json} :
    Writes ⟨.object ms none :: rest, root⟩ .endObject (attach ⟨rest, root⟩ (.obj ms)).2
  | startArray {w : Writer} : w.slotFault? = none →
    Writes w .startArray ⟨.array [] :: w.stack, w.root⟩
  | endArray {items : List Json} {rest : List Frame} {root : Option Json} :
    Writes ⟨.array items :: rest, root⟩ .endArray (attach ⟨rest, root⟩ (.arr items.reverse)).2
  | value {w : Writer} (v : Json) : w.slotFault? = none → Writes w (.value v) (w.attach v).2
  | property {ms : Json.Members} {rest : List Frame} {root : Option Json} (name : String)
      (v : Json) :
    Writes ⟨.object ms none :: rest, root⟩ (.property name v)
      ⟨.object (Entries.insert ms name v) none :: rest, root⟩

/-- Where a refused call leads: only an end takes something away. -/
def refused (w : Writer) (c : Call) : Writer := if c.isEnd then w.dropped else w

section

variable {w w' : Writer}

theorem call_writes_or_refused (h : w.Sound) (c : Call) :
    (∃ w', Writes w c w' ∧ w.call c = (.ok (), w')) ∨
      ∃ fault, w.call c = (.error fault, w.refused c) := by
  obtain ⟨stack, root⟩ := w
  -- Each call looks at the innermost container, and the starts and values at the place in it.
  cases c with
  | name name =>
    rcases stack with _ | ⟨⟨ms, _ | pending⟩ | items, rest⟩
    · exact .inr ⟨_, rfl⟩
    · exact .inl ⟨_, .name name, rfl⟩
    · exact .inr ⟨_, rfl⟩
    · exact .inr ⟨_, rfl⟩
  | startObject =>
    simp only [call, Writer.startObject, open_]
    rcases hs : slotFault? ⟨stack, root⟩ with _ | fault
    · exact .inl ⟨_, .startObject hs, rfl⟩
    · exact .inr ⟨fault, rfl⟩
  | startArray =>
    simp only [call, Writer.startArray, open_]
    rcases hs : slotFault? ⟨stack, root⟩ with _ | fault
    · exact .inl ⟨_, .startArray hs, rfl⟩
    · exact .inr ⟨fault, rfl⟩
  | endObject =>
    rcases stack with _ | ⟨⟨ms, _ | pending⟩ | items, rest⟩
    · exact .inr ⟨_, rfl⟩
    · have put := h.dropped_attach_ok (.obj ms)
      exact .inl ⟨_, .endObject, Prod.ext put rfl⟩
    · exact .inr ⟨_, rfl⟩
    · exact .inr ⟨_, rfl⟩
  | endArray =>
    rcases stack with _ | ⟨⟨ms, pending⟩ | items, rest⟩
    · exact .inr ⟨_, rfl⟩
    · exact .inr ⟨_, rfl⟩
    · have put := h.dropped_attach_ok (.arr items.reverse)
      exact .inl ⟨_, .endArray, Prod.ext put rfl⟩
  | value v =>
    simp only [call, writeValue]
    rcases hs : slotFault? ⟨stack, root⟩ with _ | fault
    · have put := attach_ok (slotFault?_eq_none_iff.1 hs).1 v
      exact .inl ⟨_, .value v hs, Prod.ext put rfl⟩
    · exact .inr ⟨fault, rfl⟩
  | property name v =>
    rcases stack with _ | ⟨⟨ms, _ | pending⟩ | items, rest⟩
    · exact .inr ⟨_, rfl⟩
    · exact .inl ⟨_, .property name v, rfl⟩
    · exact .inr ⟨_, rfl⟩
    · exact .inr ⟨_, rfl⟩

theorem Sound.writes_of_call (h : w.Sound) {c : Call} (hc : w.call c = (.ok (), w')) :
    Writes w c w' := by
  rcases call_writes_or_refused h c with ⟨u, hw, hu⟩ | ⟨fault, hf⟩
  · rw [hc] at hu
    cases hu
    exact hw
  · rw [hc] at hf
    cases hf

theorem Sound.call_refused (h : w.Sound) {c : Call} {fault : WriterFault}
    (hc : (w.call c).1 = .error fault) : (w.call c).2 = w.refused c := by
  rcases call_writes_or_refused h c with ⟨u, -, hu⟩ | ⟨f, hf⟩
  · rw [hu] at hc
    cases hc
  · rw [hf]

theorem Sound.opened (h : w.Sound) (hs : w.slotFault? = none) (frame : Frame) :
    Sound ⟨frame :: w.stack, w.root⟩ := by
  obtain ⟨hhead, hroot⟩ := slotFault?_eq_none_iff.1 hs
  refine ⟨fun hsome => ?_, fun f hf => ?_⟩
  · have hempty := h.closed hsome
    rw [hroot hempty] at hsome
    cases hsome
  · change f ∈ w.stack at hf
    rcases hstack : w.stack with _ | ⟨top, rest⟩
    · rw [hstack] at hf
      cases hf
    · rw [hstack] at hf hhead
      rcases List.mem_cons.1 hf with rfl | hrest
      · exact hhead _ rfl
      · exact h.waiting f (by rw [hstack]; exact hrest)

theorem Sound.replaced {top top' : Frame} {rest : List Frame} {root : Option Json}
    (h : Sound ⟨top :: rest, root⟩) : Sound ⟨top' :: rest, root⟩ := by
  refine ⟨fun hsome => ?_, h.waiting⟩
  have := h.closed hsome
  cases this

theorem Sound.writes (h : w.Sound) {c : Call} (hw : Writes w c w') : w'.Sound := by
  cases hw with
  | name => exact h.replaced
  | startObject hs => exact h.opened hs _
  | startArray hs => exact h.opened hs _
  | endObject => exact h.dropped.attach _
  | endArray => exact h.dropped.attach _
  | value v => exact h.attach v
  | property => exact h.replaced

/-- A call keeps a writer sound, refused or not. -/
theorem Sound.call (h : w.Sound) (c : Call) : (w.call c).2.Sound := by
  rcases call_writes_or_refused h c with ⟨u, hw, hu⟩ | ⟨fault, hf⟩
  · rw [hu]
    exact h.writes hw
  · rw [hf]
    unfold refused
    split
    · exact h.dropped
    · exact h

end

/-! ## Runs -/

theorem sound_empty : Sound empty := ⟨nofun, nofun⟩

theorem Sound.after {w : Writer} (h : w.Sound) (calls : List Call) : (w.after calls).Sound := by
  induction calls generalizing w with
  | nil => exact h
  | cons c calls ih => exact ih (h.call c)

theorem Sound.after_finished {w : Writer} (h : w.Sound) {v : Json} (hv : w.root = some v)
    (calls : List Call) : w.after calls = w := by
  have hs : w.stack = [] := h.closed (by rw [hv]; rfl)
  obtain ⟨stack, root⟩ := w
  cases hs
  cases hv
  induction calls with
  | nil => rfl
  | cons c calls ih =>
    have same : (Writer.call ⟨[], some v⟩ c).2 = ⟨[], some v⟩ := by cases c <;> rfl
    unfold Writer.after
    rw [List.foldl_cons, same]
    exact ih

theorem writeProperty_whole (w : Writer) (name : String) (v : Json) :
    (∃ fault, w.writeProperty name v = (.error fault, w)) ∨
      ∃ ms rest, w.stack = .object ms none :: rest ∧ w.writeProperty name v =
        (.ok (), { w with stack := .object (Entries.insert ms name v) none :: rest }) := by
  obtain ⟨stack, root⟩ := w
  rcases stack with _ | ⟨⟨ms, _ | pending⟩ | items, rest⟩
  · exact .inl ⟨_, rfl⟩
  · exact .inr ⟨ms, rest, rfl, rfl⟩
  · exact .inl ⟨_, rfl⟩
  · exact .inl ⟨_, rfl⟩

/-- Behind any calls, refused ones among them, nothing is open around a finished document and every
object around the innermost container has a pending name. So a value can be put wherever a call puts
one, a finished document stays what it is, no member is put by half, and a refused call changes
nothing, but that an end drops the innermost container. -/
theorem empty_after_calls (calls : List Call) :
    let w := empty.after calls
    (w.root.isSome = true → w.stack = []) ∧
    (∀ ms pending, Frame.object ms pending ∈ w.stack.tail → pending.isSome = true) ∧
    (∀ v, (w.dropped.attach v).1 = .ok () ∧ (w.slotFault? = none → (w.attach v).1 = .ok ())) ∧
    (∀ v more, w.root = some v → w.after more = w) ∧
    (∀ name v, (∃ fault, w.writeProperty name v = (.error fault, w)) ∨
      ∃ ms rest, w.stack = .object ms none :: rest ∧ w.writeProperty name v =
        (.ok (), { w with stack := .object (Entries.insert ms name v) none :: rest })) ∧
    ∀ c fault, (w.call c).1 = .error fault →
      (w.call c).2 = if c.isEnd then { w with stack := w.stack.tail } else w := by
  intro w
  have sound : w.Sound := sound_empty.after calls
  refine ⟨sound.closed, ?_, ?_, ?_, writeProperty_whole w, ?_⟩
  · intro ms pending hmem
    have waits := sound.waiting _ hmem
    cases pending with
    | none => cases waits
    | some name => rfl
  · intro v
    exact ⟨sound.dropped_attach_ok v, fun hs => attach_ok (slotFault?_eq_none_iff.1 hs).1 v⟩
  · intro v more hv
    exact sound.after_finished hv more
  · intro c fault hc
    exact sound.call_refused hc

end Writer

end Stencil.Template
