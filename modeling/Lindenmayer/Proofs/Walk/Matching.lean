import Lindenmayer.Proofs.Walk.Reached

/-!
# Matching states

What a turtle does next depends on its pose and on the poses it remembers, and on nothing else that
it carries. States that agree in these match, and from then on two walks along the same operations
cannot be told apart by what they draw, nor by how they end.

## Where walks come to match

A balanced branch leaves no trace: the state behind it matches the one before it. Nothing inside a
branch reaches the poses remembered before it, which is said of legal operations as a whole and
proved without a look at how branches nest: the operations so far are never lower than they were
where the branch began, so none of these poses is ever returned to.
-/

namespace Lindenmayer

open Op (Legal Balanced branch)

variable {t : Turtle} {u ops : List Op} {s s' : State} {drawn drawn' : List Segment}

/-! ## Matching states -/

/-- Two states agree on what decides the way ahead: the pose and the remembered poses. What they
have counted and bounded may differ. -/
structure State.Matches (s s' : State) : Prop where
  pose : s'.pose = s.pose
  branches : s'.branches = s.branches

theorem State.Matches.symm (h : s.Matches s') : s'.Matches s := ⟨h.pose.symm, h.branches.symm⟩

theorem State.Matches.trans {s'' : State} (h : s.Matches s') (h' : s'.Matches s'') :
    s.Matches s'' :=
  ⟨h'.pose.trans h.pose, h'.branches.trans h.branches⟩

theorem State.Matches.step (h : s.Matches s') {op : Op} {a : Advance} (hstep : s.Step t op a) :
    ∃ a', s'.Step t op a' ∧ a.state.Matches a'.state ∧ a'.drawn = a.drawn := by
  obtain ⟨hpose, hbranches⟩ := h
  cases hstep with
  | draw hahead =>
    rw [← hpose] at hahead
    exact ⟨_, .draw hahead, ⟨by simp [State.goTo, hpose], hbranches⟩, by simp [hpose]⟩
  | move hahead =>
    rw [← hpose] at hahead
    exact ⟨_, .move hahead, ⟨by simp [State.goTo, hpose], hbranches⟩, rfl⟩
  | turn v => exact ⟨_, .turn v, ⟨by simp [hpose], hbranches⟩, rfl⟩
  | push => exact ⟨_, .push, ⟨hpose, by simp [hpose, hbranches]⟩, rfl⟩
  | pop hrest => exact ⟨_, .pop (hbranches.trans hrest), ⟨rfl, rfl⟩, rfl⟩
  | ignore => exact ⟨_, .ignore, ⟨hpose, hbranches⟩, rfl⟩

theorem State.Matches.apply_eq_error (h : s.Matches s') {op : Op} {index : ℕ} {e : Error}
    (herror : s.apply t index op = .error e) (index' : ℕ) :
    ∃ e', s'.apply t index' op = .error e' ∧ (index = index' → e = e') := by
  cases op with
  | draw | move =>
    rcases hahead : t.ahead? s.pose with - | place
    · refine ⟨e, ?_, fun _ ↦ rfl⟩
      simpa [State.apply, h.pose, hahead] using herror
    · simp [State.apply, hahead] at herror
  | pop =>
    rcases hbranches : s.branches with - | ⟨p, rest⟩
    · refine ⟨.underflow index', by simp [State.apply, h.branches, hbranches], ?_⟩
      rintro rfl
      simpa [State.apply, hbranches, eq_comm] using herror
    · simp [State.apply, hbranches] at herror
  | turn v | push | ignore => simp [State.apply] at herror

/-- **The way ahead.** From matching states the same operations draw the same segments and lead to
matching states, or else to the same error but for the index. -/
theorem State.Matches.course (h : s.Matches s') (ops : List Op) (index index' : ℕ) :
    (t.course index ops s).drawn = (t.course index' ops s').drawn ∧
      ((∃ last last', (t.course index ops s).outcome = .ok last ∧
          (t.course index' ops s').outcome = .ok last' ∧ last.Matches last') ∨
        ∃ e e', (t.course index ops s).outcome = .error e ∧
          (t.course index' ops s').outcome = .error e' ∧ (index = index' → e = e')) := by
  induction ops generalizing s s' index index' with
  | nil => exact ⟨rfl, Or.inl ⟨s, s', rfl, rfl, h⟩⟩
  | cons op ops ih =>
    rcases happly : s.apply t index op with e | a
    · obtain ⟨e', happly', heq⟩ := h.apply_eq_error happly index'
      simp only [Turtle.course, happly, happly']
      exact ⟨trivial, Or.inr ⟨e, e', rfl, rfl, heq⟩⟩
    · obtain ⟨a', hstep', hnext, hdrawn⟩ := h.step (State.step_of_apply_eq_ok happly)
      obtain ⟨hrest, hends⟩ := ih hnext (index + 1) (index' + 1)
      simp only [Turtle.course, happly, hstep'.apply_eq_ok, hdrawn, hrest, true_and]
      simpa using hends

theorem State.Matches.reaches_append (hmatch : s.Matches s') {u' rest : List Op}
    (h : t.Reaches u s drawn) (h' : t.Reaches u' s' drawn') {last : State} {all : List Segment}
    (hlast : t.Reaches (u ++ rest) last all) :
    ∃ last' all', t.Reaches (u' ++ rest) last' all' ∧ last.Matches last' := by
  have hcourse := (h.course_append rest).symm.trans hlast.course_eq
  rcases (hmatch.course rest u.length u'.length).2 with
    ⟨next, next', hnext, hnext', hmatch'⟩ | ⟨e, e', he, -⟩
  · obtain ⟨all', hreach'⟩ := h'.of_course hnext'
    rw [hnext] at hcourse
    simp at hcourse
    exact ⟨next', all', hreach', hcourse.2 ▸ hmatch'⟩
  · rw [he] at hcourse
    simp at hcourse

/-! ## A branch leaves no trace -/

/-- Legal operations leave alone the poses remembered before them. -/
theorem Turtle.Reaches.suffix_branches (h : t.Reaches u s drawn) (hlegal : Legal ops)
    (h' : t.Reaches (u ++ ops) s' drawn') : s.branches <:+ s'.branches := by
  induction ops using List.reverseRecOn generalizing s' drawn' with
  | nil =>
    rw [List.append_nil] at h'
    obtain ⟨-, hs⟩ := Course.mk.inj (h.course_eq.symm.trans h'.course_eq)
    rw [Except.ok.inj hs]
  | append_singleton ops op ih =>
    obtain ⟨hlegal, hheight⟩ := Op.legal_append_singleton_iff.mp hlegal
    have hlength : s.branches.length ≤ s'.branches.length := by
      have hlength := h'.length_branches
      rw [Op.height_append, ← h.length_branches] at hlength
      omega
    rw [← List.append_assoc] at h'
    obtain ⟨s₁, drawn₁, a, h₁, hstep, rfl, -⟩ := h'.exists_step
    have hsuffix := ih hlegal h₁
    cases hstep with
    | push => exact hsuffix.trans (List.suffix_cons _ _)
    | pop hbranches =>
      rw [hbranches, List.suffix_cons_iff] at hsuffix
      rcases hsuffix with heq | hrest
      · -- the pose that is returned to would be one of those before
        simp [heq] at hlength
      · exact hrest
    | draw _ | move _ | turn _ | ignore => exact hsuffix

/-- **A branch leaves no trace.** Behind a balanced branch the turtle is as it was before it, but
for what it has counted and bounded, and the segments drawn are those of the branch. -/
theorem Turtle.Reaches.append_branch (hn : 0 < t.compass.directions) (h : t.Reaches u s drawn)
    (hbalanced : Balanced ops) :
    ∃ s', t.Reaches (u ++ branch ops) s' (drawn ++ (t.course u.length (.push :: ops) s).drawn) ∧
      s.Matches s' := by
  have hpush := h.step (.push (t := t) (s := s))
  obtain ⟨s', drawn', hreach⟩ :=
    t.exists_reaches_of_legal hn (hpush.legal.append hbalanced.legal)
  have hbranches : s'.branches = s.pose :: s.branches := by
    have hlength := hreach.length_branches
    rw [Op.height_append, ← hpush.length_branches, hbalanced.level, add_zero] at hlength
    exact ((hpush.suffix_branches hbalanced.legal hreach).eq_of_length
      (Int.ofNat_inj.mp hlength.symm)).symm
  have hdrawn : drawn' = drawn ++ (t.course u.length (.push :: ops) s).drawn := by
    have hcourse := h.course_append (.push :: ops)
    rw [List.append_cons, hreach.course_eq] at hcourse
    exact (Course.mk.inj hcourse).1
  have hlast := hreach.step (.pop hbranches)
  have hoperations : u ++ [.push] ++ ops ++ [.pop] = u ++ branch ops := by simp [branch]
  rw [hoperations, hdrawn, Option.toList_none, List.append_nil] at hlast
  exact ⟨_, hlast, rfl, rfl⟩

end Lindenmayer
