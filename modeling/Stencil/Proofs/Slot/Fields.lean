import Stencil.Proofs.Number.Writing
import Stencil.Proofs.Parameter.Fields
import Stencil.Proofs.Path.Projection
import Stencil.Proofs.Slot.Interpretation
import Stencil.Proofs.Slot.References

/-!
# Fields shown by name and by path

A field of an object is shown in a slot by its name, where the object was added to a store, and by a
path, where it is a document. Both show the same, but for the notation of numbers.
-/

namespace Stencil

open Text (byteLength)

/-! ## Paths of one name -/

namespace Path

theorem Reader.Reaches.readToEnd {r s : Reader} (h : Reaches r s) : r.readToEnd = s.readToEnd := by
  induction h with
  | refl => rfl
  | read hr _ ih =>
    rw [readToEnd_eq, hr]
    exact ih

theorem complete_child {name : String} (h : IsPropertyName name) :
    Complete ('$' :: '.' :: name.toList) := by
  have root := Reader.behindRoot_is ('.' :: name.toList)
  have node : (Reader.behindRoot ('.' :: name.toList)).AtNode .path := ⟨_, root, rfl, nofun⟩
  have selected : IsSelector .longest false (.child name) ('.' :: (name.toList ++ [])) [] :=
    h.child false rfl
  rw [List.append_nil] at selected
  obtain ⟨u, s, hread, -, hstep, hs, hrest⟩ := readPathStep_complete node (.select selected)
  have reaches : Reader.Reaches u s := by
    unfold readPathStep at hstep
    rcases hread : readStep u with e | ⟨step, t⟩ <;> rw [hread] at hstep
    · cases hstep
    cases step with
    | selector sel =>
      cases hstep
      exact readStep_reaches hread
    | expression =>
      obtain ⟨_, -, hstep⟩ := Reader.bind_eq_ok hstep
      obtain ⟨_, -, hstep⟩ := Reader.bind_eq_ok hstep
      cases hstep
  obtain ⟨t, hend⟩ := reads_end_path hs hrest
  refine complete_iff.2 ⟨_, t.position, rfl, ?_⟩
  rw [Reader.readToEnd_eq, hread]
  dsimp only
  rw [reaches.readToEnd, Reader.readToEnd_eq, hend]

theorem not_continues_brace (path : List Char) : ¬ Continues path ['\x7d'] := by
  rintro ((h | h) | ⟨-, h⟩) <;> cases h

end Path

/-! ## Slots that only show something -/

namespace Slot

/-- Letters, digits and underscores, no digit in front. -/
def IsIdentifier (name : String) : Prop :=
  ∃ c cs, name.toList = c :: cs ∧ isNameStart c = true ∧ ∀ d ∈ cs, isNameChar d = true

theorem isIdentifier_iff (name : String) :
    (match name.toList with
      | c :: cs => isNameStart c && cs.all isNameChar
      | [] => false) = true ↔ IsIdentifier name := by
  unfold IsIdentifier
  cases name.toList with
  | nil => simp
  | cons c cs => simp

instance (name : String) : Decidable (IsIdentifier name) :=
  decidable_of_decidable_of_iff (isIdentifier_iff name)

/-- The slot of a reference and nothing else. -/
def slotOf (reference : String) : String := "\x7b" ++ reference ++ "\x7d"

section

variable {name reference : String}

theorem IsIdentifier.isPropertyName (h : IsIdentifier name) : Path.IsPropertyName name := by
  obtain ⟨c, cs, hname, hc, hcs⟩ := h
  refine ⟨c, cs, hname, ?_, fun d hd => ?_⟩
  · unfold Path.isNameStart
    unfold isNameStart at hc
    rw [hc, Bool.true_or]
  · have char := hcs d hd
    unfold Path.isNameChar
    unfold isNameChar at char
    rw [char, Bool.true_or]

theorem IsIdentifier.word (h : IsIdentifier name) :
    Word (.reference name) (name.toList ++ ['\x7d']) ['\x7d'] := by
  obtain ⟨c, cs, hname, hc, hcs⟩ := h
  have lexeme : Lexeme (.reference (String.ofList (c :: cs))) (c :: (cs ++ ['\x7d'])) ['\x7d'] :=
    .name hc hcs (Path.stops_cons rfl)
  rw [← hname, String.ofList_toList] at lexeme
  rw [hname]
  exact ⟨[], _, rfl, nofun, lexeme⟩

theorem IsIdentifier.path_word (h : IsIdentifier name) :
    Word (.reference ("$." ++ name)) (("$." ++ name).toList ++ ['\x7d']) ['\x7d'] := by
  have length : Path.embeddedLength (String.ofList ('$' :: ('.' :: name.toList ++ ['\x7d']))) =
      .ok (byteLength ('$' :: '.' :: name.toList)) :=
    Path.embeddedLength_eq_ok_iff.2 ⟨'$' :: '.' :: name.toList, ['\x7d'], rfl, rfl,
      Path.complete_child h.isPropertyName, Path.not_continues_brace _⟩
  have key : String.ofList ('$' :: '.' :: name.toList) = "$." ++ name := by
    rw [← String.toList_inj]
    simp
  have text : ("$." ++ name).toList = '$' :: '.' :: name.toList := by simp
  rw [← key, String.toList_ofList]
  exact ⟨[], _, rfl, nofun, .path length⟩

theorem isText_slotOf (h : Word (.reference reference) (reference.toList ++ ['\x7d']) ['\x7d']) :
    IsText (slotOf reference) [.slot ⟨reference, [], none, []⟩] := by
  have stop : Word .stop ['\x7d'] [] := ⟨[], _, rfl, nofun, lexeme_stop []⟩
  have text : (slotOf reference).toList = '\x7b' :: (reference.toList ++ ['\x7d']) := by
    simp [slotOf]
  unfold IsText
  rw [text]
  exact .cons (.slot (.mk h (.nil _) (.plain (.close stop)))) (.nil [])

theorem render_slotOf (registry : Registry) (ctx : Parameter)
    (h : Word (.reference reference) (reference.toList ++ ['\x7d']) ['\x7d']) {v : Value}
    (hv : ctx.resolve reference = .ok v) : render registry ctx (slotOf reference) = .ok v.text := by
  rw [render_eq_interpret (isText_slotOf h)]
  simp only [interpret, Item.value, Hole.value, hv, mapError_ok, ok_bind, List.foldlM_nil,
    Option.elim, pure_bind]
  exact congrArg Except.ok (String.append_empty)

end

/-! ## Fields -/

section

variable {ms : Json.Members} {name : String}

/-- What a field shows in a document. -/
def shown (v : Option Json) : String := (v.map Json.plainText).getD ""

theorem resolve_name (hms : (Entries.names ms).Nodup) {s : Store}
    (hs : s.values.entries = Store.fieldValues ms) :
    (Parameter.store s).resolve name =
      .ok (((Entries.find? ms name).bind Store.ofField).getD .undefined) := by
  rw [← Store.find?_fieldValues hms, ← hs]
  rfl

theorem resolve_path (hname : Path.IsPropertyName name) :
    (Parameter.ofJson (.obj ms)).resolve ("$." ++ name) =
      .ok (((Entries.find? ms name).map Value.json).getD .undefined) := by
  have found : Path.evaluate (.obj ms) ("$." ++ name) = .ok (Entries.find? ms name) := by
    rw [Path.evaluate_selector (by simp) (Path.isSteps_child hname)]
    exact congrArg Except.ok (Path.property_toJson? nofun)
  have dollar : ("$." ++ name).toList = '$' :: '.' :: name.toList := by simp
  simp only [Parameter.ofJson, Parameter.resolve, Parameter.lastFound, Root.lookup, dollar, found]
  rcases Entries.find? ms name with _ | v <;> rfl

theorem text_path (v : Option Json) : ((v.map Value.json).getD .undefined).text = shown v := by
  rcases v with _ | v <;> rfl

theorem text_ofField (v : Json) : ((Store.ofField v).getD .undefined).text = v.plainText ∨
    ∃ n d, v = .num n ∧ n.toDecimal? = some d ∧
      ((Store.ofField v).getD .undefined).text = d.text := by
  cases v with
  | null | str | arr | obj => exact .inl rfl
  | bool b => exact .inl (by cases b <;> rfl)
  | num n =>
    cases hd : n.toDecimal? with
    | none => exact .inl (by simp only [Store.ofField, hd]; rfl)
    | some d => exact .inr ⟨n, d, rfl, hd, by simp only [Store.ofField, hd]; rfl⟩

/-- A field of an object is shown by its name, in the store that the object is added to, and by a
path, in the object itself. Both show the same, nothing for a field that is null or missing; the
notations of a number may differ, but both are read as the same decimal then. -/
theorem render_name_and_path (registry : Registry) (hms : (Entries.names ms).Nodup)
    (hname : IsIdentifier name) :
    ∃ store byName byPath, Store.empty.extend? (.obj ms) = some store ∧
      render registry (.store store) (slotOf name) = .ok byName ∧
      render registry (.ofJson (.obj ms)) (slotOf ("$." ++ name)) = .ok byPath ∧
      byPath = shown (Entries.find? ms name) ∧
      ((Entries.find? ms name).getD .null = .null → byName = "" ∧ byPath = "") ∧
      (byName = byPath ∨ ∃ n d e, Entries.find? ms name = some (.num n) ∧
        Decimal.parse? byName = some d ∧ Decimal.parse? byPath = some e ∧ d.equal e = true) := by
  obtain ⟨store, hstore, hentries⟩ := Store.extend?_obj hms
  refine ⟨store, _, _, hstore, render_slotOf registry _ hname.word (resolve_name hms hentries),
    render_slotOf registry _ hname.path_word (resolve_path hname.isPropertyName),
    text_path _, ?_, ?_⟩
  · intro hnull
    rcases hv : Entries.find? ms name with _ | v
    · exact ⟨rfl, rfl⟩
    · rw [hv] at hnull
      obtain rfl : v = .null := hnull
      exact ⟨rfl, rfl⟩
  · rcases hv : Entries.find? ms name with _ | v
    · exact .inl rfl
    · rcases text_ofField v with same | ⟨n, d, rfl, hd, htext⟩
      · exact .inl same
      · obtain ⟨e, he, hvalue⟩ := (Decimal.parse?_bounded hd).parse?_text
        refine .inr ⟨n, e, d, rfl, ?_, hd, (Decimal.equal_iff e d).2 hvalue⟩
        rw [← htext] at he
        exact he

end

/-- An object with a null field and the number that is printed as `1e-7`. -/
def tiny : Json.Members := [("none", .null), ("_n1", .num (.float ⟨false, 7555786372591432, -76⟩))]

-- By its name the number is shown in another notation.
theorem render_name_and_path_tiny :
    (Entries.names tiny).Nodup ∧ IsIdentifier "_n1" ∧ IsIdentifier "none" ∧
    ∃ store, Store.empty.extend? (.obj tiny) = some store ∧
      render .builtin (.store store) (slotOf "none") = .ok "" ∧
      render .builtin (.store store) (slotOf "_n1") = .ok "0.0000001" ∧
      render .builtin (.ofJson (.obj tiny)) (slotOf "$._n1") = .ok "1e-7" ∧
      ∃ d e, Decimal.parse? "0.0000001" = some d ∧ Decimal.parse? "1e-7" = some e ∧
        d.equal e = true := by
  have names : (Entries.names tiny).Nodup := by decide
  have number : IsIdentifier "_n1" := by decide
  have null : IsIdentifier "none" := by decide
  obtain ⟨store, empty, _, hstore, hempty, -, -, hnull, -⟩ :=
    render_name_and_path .builtin names null
  rw [(hnull rfl).1] at hempty
  obtain ⟨store', byName, byPath, hstore', hname, hpath, hshown, -, hsame⟩ :=
    render_name_and_path .builtin names number
  cases hstore.symm.trans hstore'
  have path : byPath = "1e-7" := hshown.trans (by decide +kernel)
  have name : byName = "0.0000001" := by
    obtain ⟨store', hstore', hentries⟩ := Store.extend?_obj names
    cases hstore.symm.trans hstore'
    have decimal : (JsonNumber.float ⟨false, 7555786372591432, -76⟩).toDecimal? =
        some ⟨false, 1, 7⟩ := by decide +kernel
    have found : ((Entries.find? tiny "_n1").bind Store.ofField).getD .undefined =
        .number ⟨false, 1, 7⟩ := by
      show (Store.ofField (.num (.float ⟨false, 7555786372591432, -76⟩))).getD .undefined = _
      simp only [Store.ofField, decimal]
      rfl
    have rendered := render_slotOf .builtin _ number.word (resolve_name names hentries)
    rw [found, hname] at rendered
    exact (Except.ok.inj rendered).trans (by decide +kernel)
  subst path name
  obtain ⟨_, d, e, -, hd, he, hequal⟩ := hsame.resolve_left (by decide)
  exact ⟨names, number, null, store, hstore, hempty, hname, hpath, d, e, hd, he, hequal⟩

end Slot

end Stencil
