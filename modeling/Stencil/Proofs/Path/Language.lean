import Stencil.Proofs.Path.Expressions

/-!
# The language of paths

A text is read to a list of steps exactly if the grammar has it as a path with these steps.
-/

namespace Stencil.Path

open Reader (bind_eq_ok)

variable {r s u : Reader} {rest : List Char}

theorem readPathStep_sound {step : PathStep} (starts : StepStarts .path r u)
    (h : readPathStep u = .ok (step, s)) :
    IsPathStep .longest step r.rest s.rest ∧ s.AtNode .path := by
  unfold readPathStep at h
  rcases hstep : readStep u with e | ⟨step', t⟩ <;> rw [hstep] at h
  · cases h
  have read := readStep_sound (.inl rfl) starts hstep
  cases step' with
  | selector sel =>
    cases h
    exact ⟨.select read.1, read.2⟩
  | expression =>
    obtain ⟨-, ht, mid, hopen, hexpr⟩ := read
    obtain ⟨⟨c, v⟩, hc, h⟩ := bind_eq_ok h
    obtain ⟨w, hw, h⟩ := bind_eq_ok h
    cases h
    obtain ⟨hcond, hv⟩ := readCondition_sound ht hc
    obtain ⟨comma, t', n, hf, hs, hentry, -⟩ :=
      Reader.reads_sound hv (Reader.nextToken_eq_ok.1 hw).1
    obtain ⟨rfl, rfl, rfl⟩ := hf.endExpression
    exact ⟨.filter hopen hexpr hcond ⟨_, hentry⟩, _, hs, rfl, nofun⟩

theorem readPathStep_complete {step : PathStep} (hr : r.AtNode .path)
    (h : IsPathStep .longest step r.rest rest) :
    ∃ u s, r.read = (.ok true, u) ∧ StepStarts .path r u ∧ readPathStep u = .ok (step, s) ∧
      s.AtNode .path ∧ s.rest = rest := by
  cases h with
  | select hsel =>
    obtain ⟨u, s, hread, starts, hs, hnode⟩ := readStep_complete hr (.inl rfl) hsel
    refine ⟨u, s, hread, starts, ?_, hnode⟩
    unfold readPathStep
    rw [hs]
  | filter hopen hexpr hcond hclose =>
    obtain ⟨a, hr, ha, -⟩ := hr
    obtain ⟨u, hread, hu, rfl⟩ := reads_behind hr (.opening ha) hopen trivial nofun
    obtain ⟨v, hread', hv, rfl⟩ := reads_behind hu (.expression rfl) hexpr trivial nofun
    obtain ⟨w, hw, hclosed, rfl⟩ := readCondition_complete hv hcond
    obtain ⟨s, hread'', hs, hrest⟩ := reads_behind hclosed (.closing (.inr (.inr rfl))) hclose
      trivial nofun
    refine ⟨u, s, hread, .inr (.inr ⟨hu, hopen⟩), ?_, ⟨_, hs, rfl, nofun⟩, hrest⟩
    have hstep : readStep u = .ok (.expression, v) := by
      rw [readStep_filter hu.token hread', hv.token]
      rfl
    unfold readPathStep
    rw [hstep]
    simp only [hw, Reader.nextToken_eq_ok.2 ⟨hread'', hs.token⟩, bind, Except.bind]
    rfl

theorem mark_root_iff {path : String} {cs : List Char} :
    Mark .longest false .root path.toList cs ↔ path.toList = '$' :: cs := by
  constructor
  · rintro ⟨lexeme, hword⟩
    exact ((word_iff.1 hword).sign rfl).2
  · intro h
    exact ⟨_, word_iff.2 ⟨['$'], h, .sign rfl, trivial⟩⟩

theorem start_reads {path : String} (h : (Reader.start path).read = (.ok true, s)) :
    s.Is .root .path ∧ path.toList = '$' :: s.rest := by
  unfold Reader.start at h
  rcases hp : path.toList with _ | ⟨c, cs⟩ <;> rw [hp] at h
  · cases h
  · by_cases hc : c = '$'
    · subst hc
      cases h
      exact ⟨⟨rfl, rfl, rfl, rfl⟩, rfl⟩
    · have nothing : Reader.scan ⟨c :: cs, 0, none, [], .path, false, false⟩ =
          .nothing ⟨c :: cs, 0, none, [], .path, false, false⟩ := by
        show Reader.scanRoot _ = _
        unfold Reader.scanRoot
        split
        · next he => exact absurd (List.cons.inj he).1 hc
        · rfl
      rw [Reader.read_eq rfl] at h
      simp only [Reader.gapped, if_true, nothing] at h
      cases h

theorem reads_start {path : String} {cs : List Char} (h : path.toList = '$' :: cs) :
    ∃ s, (Reader.start path).read = (.ok true, s) ∧ s.Is .root .path ∧ s.rest = cs := by
  unfold Reader.start
  rw [h]
  exact ⟨_, rfl, ⟨rfl, rfl, rfl, rfl⟩, rfl⟩

theorem read_end_path {a : Token} (hr : r.Is a .path) (h : r.read = (.ok false, s)) :
    r.rest = [] := by
  have hrest := hr.gapped.2
  rw [((Reader.read_end_iff hr).1 ⟨s, h⟩).1] at hrest
  exact hrest.symm

theorem reads_end_path (hr : r.AtNode .path) (h : r.rest = []) : ∃ s, r.read = (.ok false, s) := by
  obtain ⟨a, hr, ha, hcurrent⟩ := hr
  refine (Reader.read_end_iff hr).2 ⟨hr.gapped.2.trans h, ?_⟩
  unfold Reader.isComplete
  rw [hr.token, hr.mode]
  cases a
  case current => exact absurd rfl (hcurrent rfl)
  case root | propertyName | wildcard | endFilter => rfl
  all_goals cases ha

/-- The paths that are read are those of the grammar, with the same steps. -/
theorem readPath_eq_ok_iff {path : String} {steps : List PathStep} :
    readPath path = .ok steps ↔ IsPath .longest path steps := by
  unfold readPath IsPath
  constructor
  · intro h
    rcases hread : (Reader.start path).read with ⟨e | more, r⟩ <;> rw [hread] at h
    · cases h
    cases more with
    | false => cases h
    | true =>
      obtain ⟨hr, hpath⟩ := start_reads hread
      dsimp only at h
      rw [if_pos hr.token] at h
      rcases hs : readSteps readPathStep readPathStep_forward r with e | ⟨steps', s⟩ <;>
        rw [hs] at h <;> cases h
      obtain ⟨v, hmany, ⟨a, hv, -⟩, hend⟩ := readSteps_sound (.inl rfl)
        (fun r u a s starts h => readPathStep_sound starts h) ⟨_, hr, rfl, nofun⟩ hs
      rcases hend with hend | ⟨-, he, -⟩
      · rw [read_end_path hv hend] at hmany
        exact ⟨r.rest, mark_root_iff.2 hpath, hmany⟩
      · cases he
  · rintro ⟨cs, hroot, hmany⟩
    obtain ⟨r, hread, hr, rfl⟩ := reads_start (mark_root_iff.1 hroot)
    obtain ⟨v, hv, hrest, hsteps⟩ := readSteps_complete readPathStep readPathStep_forward
      (fun r a rest hr h => readPathStep_complete hr h) ⟨_, hr, rfl, nofun⟩ hmany
    obtain ⟨s, hend⟩ := reads_end_path hv hrest
    rw [hread]
    dsimp only
    rw [if_pos hr.token, hsteps s (.inl hend)]

end Stencil.Path
