import Stencil.Proofs.Template.Calls
import Stencil.Proofs.Template.Streaming
import Mathlib.Data.List.Induction

/-!
# Documents as calls

Which sequences of calls write a document. A value is written by one call, or as a container by the
calls for its parts between a start and an end. A writer takes exactly these sequences, and whatever
way a value is written has the same effect.
-/

namespace Stencil.Template

/-! ## Encodings -/

/-- The object that members make up: a name that comes again keeps its place and takes the later
value. -/
def objectOf (ms : Json.Members) : Json := .obj (Dictionary.ofList ms).entries

mutual

/-- The calls write the value. -/
inductive Encodes : List Call → Json → Prop where
  | value (v : Json) : Encodes [.value v] v
  | object {calls : List Call} {ms : Json.Members} :
    EncodesMembers calls ms → Encodes (.startObject :: (calls ++ [.endObject])) (objectOf ms)
  | array {calls : List Call} {vs : List Json} :
    EncodesItems calls vs → Encodes (.startArray :: (calls ++ [.endArray])) (.arr vs)

/-- The calls write the members one after the other. -/
inductive EncodesMembers : List Call → Json.Members → Prop where
  | nil : EncodesMembers [] []
  | member (name : String) {calls more : List Call} {v : Json} {ms : Json.Members} :
    Encodes calls v → EncodesMembers more ms →
      EncodesMembers (.name name :: (calls ++ more)) ((name, v) :: ms)
  | property (name : String) (v : Json) {more : List Call} {ms : Json.Members} :
    EncodesMembers more ms → EncodesMembers (.property name v :: more) ((name, v) :: ms)

/-- The calls write the items one after the other. -/
inductive EncodesItems : List Call → List Json → Prop where
  | nil : EncodesItems [] []
  | item {calls more : List Call} {v : Json} {vs : List Json} :
    Encodes calls v → EncodesItems more vs → EncodesItems (calls ++ more) (v :: vs)

end

mutual

/-- The names within every object of the value differ. -/
def NamesDiffer : Json → Prop
  | .arr items => NamesDifferItems items
  | .obj ms => (Entries.names ms).Nodup ∧ NamesDifferMembers ms
  | _ => True

def NamesDifferItems : List Json → Prop
  | [] => True
  | v :: vs => NamesDiffer v ∧ NamesDifferItems vs

def NamesDifferMembers : Json.Members → Prop
  | [] => True
  | (_, v) :: ms => NamesDiffer v ∧ NamesDifferMembers ms

end

mutual

/-- The calls that write a value with every container opened and closed. -/
def spelledOut : Json → List Call
  | .arr items => .startArray :: (spelledItems items ++ [.endArray])
  | .obj ms => .startObject :: (spelledMembers ms ++ [.endObject])
  | v => [.value v]

def spelledItems : List Json → List Call
  | [] => []
  | v :: vs => spelledOut v ++ spelledItems vs

def spelledMembers : Json.Members → List Call
  | [] => []
  | (name, v) :: ms => .name name :: (spelledOut v ++ spelledMembers ms)

end

/-- The writer behind calls that all succeed. -/
def Writer.run? (w : Writer) : List Call → Option Writer
  | [] => some w
  | c :: calls =>
    match w.call c with
    | (.ok (), next) => next.run? calls
    | (.error _, _) => none

namespace Writer

variable {w next : Writer}

theorem run?_cons {c : Call} {calls : List Call} (h : w.call c = (.ok (), next)) :
    w.run? (c :: calls) = next.run? calls := by
  rw [run?, h]

theorem run?_append {calls more : List Call} (h : w.run? calls = some next) :
    w.run? (calls ++ more) = next.run? more := by
  induction calls generalizing w with
  | nil =>
    cases h
    rfl
  | cons c calls ih =>
    rw [List.cons_append, run?]
    rw [run?] at h
    split at h
    · next hc =>
      exact ih h
    · cases h

end Writer

/-! ## Names that come again -/

theorem ofList_append {α : Type} (es : Entries α) (name : String) (v : α) :
    (Dictionary.ofList (es ++ [(name, v)])).entries =
      Entries.insert (Dictionary.ofList es).entries name v := by
  unfold Dictionary.ofList
  rw [List.foldl_append]
  rfl

theorem names_ofList {α : Type} (es : Entries α) :
    Entries.names (Dictionary.ofList es).entries = (Entries.names es).eraseDups := by
  induction es using List.reverseRecOn with
  | nil => rfl
  | append_singleton es e ih =>
    obtain ⟨name, v⟩ := e
    have names : Entries.names (es ++ [(name, v)]) = Entries.names es ++ [name] := List.map_append
    rw [ofList_append, Entries.names_insert, ih, names, List.eraseDups_append]
    by_cases hmem : name ∈ Entries.names es
    · simp [List.mem_eraseDups, List.removeAll, hmem]
    · simp [List.mem_eraseDups, List.removeAll, hmem, List.eraseDups_cons]

theorem find?_ofList {α : Type} (es : Entries α) (name : String) :
    Entries.find? (Dictionary.ofList es).entries name = Entries.find? es.reverse name := by
  induction es using List.reverseRecOn with
  | nil => rfl
  | append_singleton es e ih =>
    obtain ⟨k, v⟩ := e
    rw [ofList_append, Entries.find?_insert, ih, List.reverse_append]
    by_cases hk : name = k
    · simp [Entries.find?, hk]
    · simp [Entries.find?, hk, Ne.symm hk]

/-! ## Every encoding is taken -/

theorem objectOf_eq (ms : Json.Members) :
    objectOf ms = .obj (ms.foldl (fun es e => Entries.insert es e.1 e.2) []) := by
  unfold objectOf Dictionary.ofList
  rw [entries_foldl_insert]
  rfl

-- By induction on the encodings. An open container stays as it was, but for the parts that have
-- been put into it.
mutual

theorem Encodes.run {calls : List Call} {v : Json} (h : Encodes calls v) {w : Writer}
    (hw : w.slotFault? = none) : w.run? calls = some (w.writeValue v).2 := by
  match h with
  | .value v => exact Writer.run?_cons (writeValue_fits hw v)
  | @Encodes.object _ ms hms =>
    have started : w.call .startObject = (.ok (), inObject w.stack w.root []) := by
      simp only [Writer.call, Writer.startObject, Writer.open_, hw]
      rfl
    have ended := endObject_inObject hw (ms.foldl (fun es e => Entries.insert es e.1 e.2) [])
    rw [← objectOf_eq, writeValue_fits hw] at ended
    rw [Writer.run?_cons started, Writer.run?_append hms.run]
    exact Writer.run?_cons ended
  | @Encodes.array _ vs hvs =>
    have started : w.call .startArray = (.ok (), inArray w.stack w.root []) := by
      simp only [Writer.call, Writer.startArray, Writer.open_, hw]
      rfl
    have ended := endArray_inArray hw (vs.reverse ++ [])
    rw [List.append_nil, List.reverse_reverse, writeValue_fits hw] at ended
    rw [Writer.run?_cons started, Writer.run?_append hvs.run, List.append_nil]
    exact Writer.run?_cons ended

theorem EncodesMembers.run {calls : List Call} {ms : Json.Members} (h : EncodesMembers calls ms)
    {rest : List Frame} {root : Option Json} {members : Json.Members} :
    (inObject rest root members).run? calls =
      some (inObject rest root (ms.foldl (fun es e => Entries.insert es e.1 e.2) members)) := by
  match h with
  | .nil => rfl
  | .member name hv hms =>
    have named : (inObject rest root members).call (.name name) =
        (.ok (), ⟨.object members (some name) :: rest, root⟩) := rfl
    rw [Writer.run?_cons named, Writer.run?_append (hv.run rfl)]
    exact hms.run
  | .property name v hms => exact hms.run

theorem EncodesItems.run {calls : List Call} {vs : List Json} (h : EncodesItems calls vs)
    {rest : List Frame} {root : Option Json} {items : List Json} :
    (inArray rest root items).run? calls = some (inArray rest root (vs.reverse ++ items)) := by
  match h with
  | .nil => rfl
  | .item hv hvs =>
    rw [Writer.run?_append (hv.run rfl), List.reverse_cons, List.append_assoc]
    exact hvs.run

end

/-! ## Nothing else is taken -/

theorem EncodesMembers.append {calls more : List Call} {ms ns : Json.Members}
    (h : EncodesMembers calls ms) (hmore : EncodesMembers more ns) :
    EncodesMembers (calls ++ more) (ms ++ ns) := by
  match h with
  | .nil => exact hmore
  | .member name hv hms =>
    rw [List.cons_append, List.append_assoc]
    exact .member name hv (hms.append hmore)
  | .property name v hms => exact .property name v (hms.append hmore)

theorem EncodesItems.append {calls more : List Call} {vs us : List Json}
    (h : EncodesItems calls vs) (hmore : EncodesItems more us) :
    EncodesItems (calls ++ more) (vs ++ us) := by
  match h with
  | .nil => exact hmore
  | .item hv hvs =>
    rw [List.append_assoc]
    exact .item hv (hvs.append hmore)

/-- The calls so far have led to the writer: they are the beginning of a document, and the open
containers hold what they have put into them. -/
inductive Spells : List Call → Writer → Prop where
  | empty : Spells [] .empty
  | complete {calls : List Call} {v : Json} : Encodes calls v → Spells calls ⟨[], some v⟩
  | object {calls inner : List Call} {ms : Json.Members} {w : Writer} :
    Spells calls w → w.slotFault? = none → EncodesMembers inner ms →
      Spells (calls ++ .startObject :: inner)
        (inObject w.stack w.root (Dictionary.ofList ms).entries)
  | named {calls inner : List Call} {ms : Json.Members} {w : Writer} (name : String) :
    Spells calls w → w.slotFault? = none → EncodesMembers inner ms →
      Spells (calls ++ .startObject :: (inner ++ [.name name]))
        ⟨.object (Dictionary.ofList ms).entries (some name) :: w.stack, w.root⟩
  | array {calls inner : List Call} {vs : List Json} {w : Writer} :
    Spells calls w → w.slotFault? = none → EncodesItems inner vs →
      Spells (calls ++ .startArray :: inner) (inArray w.stack w.root vs.reverse)

namespace Spells

variable {calls : List Call} {w w' : Writer}

theorem value (h : Spells calls w) (hw : w.slotFault? = none) {more : List Call} {v : Json}
    (hv : Encodes more v) : Spells (calls ++ more) (w.attach v).2 := by
  cases h with
  | empty => exact .complete hv
  | complete => cases hw
  | object => cases hw
  | @named calls inner ms w name hcalls hfits hms =>
    have put := Spells.object hcalls hfits (hms.append (.member name hv .nil))
    rw [ofList_append] at put
    have shape : calls ++ .startObject :: (inner ++ [.name name]) ++ more =
        calls ++ .startObject :: (inner ++ .name name :: (more ++ [])) := by simp
    rw [shape]
    exact put
  | @array calls inner vs w hcalls hfits hvs =>
    have put := Spells.array hcalls hfits (hvs.append (.item hv .nil))
    rw [List.reverse_append] at put
    have shape : calls ++ .startArray :: inner ++ more =
        calls ++ .startArray :: (inner ++ (more ++ [])) := by simp
    rw [shape]
    exact put

theorem writes (h : Spells calls w) {c : Call} (hc : w.Writes c w') : Spells (calls ++ [c]) w' := by
  cases hc with
  | name name =>
    cases h with
    | @object calls inner ms w hcalls hfits hms =>
      rw [List.append_assoc]
      exact .named name hcalls hfits hms
  | startObject hw => exact .object h hw .nil
  | startArray hw => exact .array h hw .nil
  | value v hw => exact h.value hw (.value v)
  | endObject =>
    cases h with
    | @object calls inner ms w hcalls hfits hms =>
      rw [List.append_assoc]
      exact hcalls.value hfits (.object hms)
  | endArray =>
    generalize hitems : List.reverse _ = vs
    cases h with
    | @array calls inner us w hcalls hfits hvs =>
      rw [List.reverse_reverse] at hitems
      subst hitems
      rw [List.append_assoc]
      exact hcalls.value hfits (.array hvs)
  | property name v =>
    cases h with
    | @object calls inner ms w hcalls hfits hms =>
      have put := Spells.object hcalls hfits (hms.append (.property name v .nil))
      rw [ofList_append] at put
      rw [List.append_assoc]
      exact put

theorem of_run {calls more : List Call} {w w' : Writer} (h : Spells calls w) (sound : w.Sound)
    (hrun : w.run? more = some w') : Spells (calls ++ more) w' := by
  induction more generalizing calls w with
  | nil =>
    cases hrun
    rw [List.append_nil]
    exact h
  | cons c more ih =>
    rw [Writer.run?] at hrun
    split at hrun
    · next next hc =>
      have hw := sound.writes_of_call hc
      have step := ih (h.writes hw) (sound.writes hw) hrun
      rw [List.append_assoc] at step
      exact step
    · cases hrun

end Spells

/-! ## Values spelled out -/

mutual

theorem encodes_spelledOut {v : Json} (h : NamesDiffer v) : Encodes (spelledOut v) v := by
  match v with
  | .null | .bool _ | .num _ | .str _ =>
    simp only [spelledOut]
    exact .value _
  | .arr items =>
    rw [NamesDiffer] at h
    rw [spelledOut]
    exact .array (encodes_spelledItems h)
  | .obj ms =>
    rw [NamesDiffer] at h
    rw [spelledOut]
    have members := Encodes.object (encodes_spelledMembers h.2)
    unfold objectOf at members
    rw [entries_ofList h.1] at members
    exact members

theorem encodes_spelledItems {vs : List Json} (h : NamesDifferItems vs) :
    EncodesItems (spelledItems vs) vs := by
  match vs with
  | [] =>
    rw [spelledItems]
    exact .nil
  | v :: vs =>
    rw [NamesDifferItems] at h
    rw [spelledItems]
    exact .item (encodes_spelledOut h.1) (encodes_spelledItems h.2)

theorem encodes_spelledMembers {ms : Json.Members} (h : NamesDifferMembers ms) :
    EncodesMembers (spelledMembers ms) ms := by
  match ms with
  | [] =>
    rw [spelledMembers]
    exact .nil
  | (name, v) :: ms =>
    rw [NamesDifferMembers] at h
    rw [spelledMembers]
    exact .member name (encodes_spelledOut h.1) (encodes_spelledMembers h.2)

end

/-! ## Documents -/

/-- Calls on a fresh writer all succeed and leave a finished document exactly if they write one, and
the document is what they write; in it a name that came again has its first place and its last
value. Wherever a value may be written, any calls that write it have the effect of writing it as
one, and every value whose names differ can be written with all its containers opened and closed. -/
theorem run_finishes_iff_encodes (calls : List Call) (v : Json) :
    ((∃ w, Writer.empty.run? calls = some w ∧ w.finish = .ok (some v)) ↔ Encodes calls v) ∧
    (∀ ms : Json.Members,
      Entries.names (Dictionary.ofList ms).entries = (Entries.names ms).eraseDups ∧
      ∀ name, Entries.find? (Dictionary.ofList ms).entries name =
        Entries.find? ms.reverse name) ∧
    (∀ w : Writer, w.slotFault? = none → Encodes calls v →
      ∃ next, w.run? calls = some next ∧ w.writeValue v = (.ok (), next)) ∧
    (NamesDiffer v → Encodes (spelledOut v) v) := by
  refine ⟨⟨?_, ?_⟩, ?_, ?_, encodes_spelledOut⟩
  · rintro ⟨w, hrun, hfinish⟩
    have spelled := Spells.empty.of_run Writer.sound_empty hrun
    rw [List.nil_append] at spelled
    cases spelled with
    | empty => cases hfinish
    | complete hv =>
      cases hfinish
      exact hv
    | object => cases hfinish
    | named => cases hfinish
    | array => cases hfinish
  · intro hv
    exact ⟨_, hv.run rfl, rfl⟩
  · intro ms
    exact ⟨names_ofList ms, find?_ofList ms⟩
  · intro w hw hv
    exact ⟨_, hv.run hw, writeValue_fits hw v⟩

end Stencil.Template
