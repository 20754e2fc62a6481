import OpticalAccess.Log.Traced
import OpticalAccess.Router.Fanout

/-!
# What a fan-out does

The order in which calls come back decides which call is made when. It decides neither which calls
are made, nor how many of them are in flight together.
-/

namespace OpticalAccess.Fanout

variable {κ ω : Type}

/-- The calls as they come back, each with the state in which it was in flight. -/
def trace (order : Fanout κ → Nat) : (fuel : Nat) → Fanout κ → List (κ × Fanout κ)
  | 0, _ => []
  | fuel + 1, f =>
    match f.launch.settle (order f.launch) with
    | none => []
    | some (call, rest) => (call, f.launch) :: trace order fuel rest

/-- The state in which no call is left. -/
def final (order : Fanout κ → Nat) : (fuel : Nat) → Fanout κ → Fanout κ
  | 0, f => f
  | fuel + 1, f =>
    match f.launch.settle (order f.launch) with
    | none => f.launch
    | some (_, rest) => final order fuel rest

theorem runWithin_value (order : Fanout κ → Nat) (act : κ → ω → Traced ω) (v : Verbosity)
    (fuel : Nat) (f : Fanout κ) (w : ω) :
    (runWithin order act fuel f w).value v =
      (((trace order fuel f).map Prod.fst).foldl (fun w call => (act call w).value v) w,
        final order fuel f) := by
  induction fuel generalizing f w with
  | zero => rfl
  | succ fuel ih =>
    simp only [runWithin, trace, final]
    cases f.launch.settle (order f.launch) with
    | none => rfl
    | some settled =>
      obtain ⟨call, rest⟩ := settled
      exact ih rest ((act call w).value v)

/-! ### Single steps -/

theorem launch_calls (f : Fanout κ) :
    f.launch.inFlight ++ f.launch.waiting = f.inFlight ++ f.waiting := by
  simp [launch]

theorem launch_length {f : Fanout κ} (room : f.inFlight.length ≤ f.limit) :
    f.launch.inFlight.length = min f.limit f.size := by
  simp only [launch, size, List.length_append, List.length_take]
  omega

theorem launch_size (f : Fanout κ) : f.launch.size = f.size := by
  have lengths := congrArg List.length f.launch_calls
  simp only [List.length_append] at lengths
  unfold size
  omega

/-- What comes back: one of the calls in flight, if there is any. -/
inductive Settles (f : Fanout κ) : Option (κ × Fanout κ) → Prop where
  | idle (empty : f.inFlight = []) : Settles f none
  | back (before : List κ) (call : κ) (after : List κ) (split : f.inFlight = before ++ call :: after) :
      Settles f (some (call, { f with inFlight := before ++ after }))

theorem settle_settles (f : Fanout κ) (index : Nat) : Settles f (f.settle index) := by
  unfold settle
  simp only
  generalize picked : min index (f.inFlight.length - 1) = i
  cases found : f.inFlight[i]? with
  | none =>
    have beyond := List.getElem?_eq_none_iff.mp found
    have empty : f.inFlight = [] := List.length_eq_zero_iff.mp (by omega)
    exact .idle empty
  | some call =>
    obtain ⟨inside, rfl⟩ := List.getElem?_eq_some_iff.mp found
    have split : f.inFlight = f.inFlight.take i ++ f.inFlight[i] :: f.inFlight.drop (i + 1) := by
      simp
    simpa [List.eraseIdx_eq_take_drop_succ] using Settles.back _ _ _ split

/-- A round of a fan-out: calls are sent off, and then one of those in flight comes back. -/
inductive Round (f : Fanout κ) : Option (κ × Fanout κ) → Prop where
  | finished (nothing : f.inFlight ++ f.waiting = []) : Round f none
  | back (call : κ) (rest : Fanout κ)
      (calls : (call :: (rest.inFlight ++ rest.waiting)).Perm (f.inFlight ++ f.waiting))
      (limit : rest.limit = f.limit) (room : rest.inFlight.length ≤ f.limit)
      (size : rest.size + 1 = f.size) (peak : rest.peak = max f.peak (min f.limit f.size)) :
      Round f (some (call, rest))

theorem round {f : Fanout κ} (positive : 0 < f.limit) (room : f.inFlight.length ≤ f.limit)
    (index : Nat) : Round f (f.launch.settle index) := by
  have sent := launch_length room
  have total := f.launch_size
  have settles := f.launch.settle_settles index
  generalize f.launch.settle index = outcome at settles
  cases settles with
  | idle empty =>
    rw [empty, List.length_nil] at sent
    apply Round.finished
    apply List.length_eq_zero_iff.mp
    rw [List.length_append]
    unfold size at sent
    omega
  | back before call after split =>
    have fewer := congrArg List.length split
    simp only [List.length_append, List.length_cons] at fewer
    refine .back call _ ?_ rfl ?_ ?_ ?_
    · have moved : (before ++ call :: (after ++ f.launch.waiting)).Perm
          (call :: (before ++ (after ++ f.launch.waiting))) := List.perm_middle
      rw [← f.launch_calls, split]
      simpa using moved.symm
    · simp only [List.length_append]
      omega
    · unfold size at total ⊢
      simp only [List.length_append]
      omega
    · show max f.peak f.launch.inFlight.length = _
      rw [sent]

/-! ### Whole runs -/

section Runs
variable (order : Fanout κ → Nat) {fuel : Nat} {f : Fanout κ} (positive : 0 < f.limit)
  (room : f.inFlight.length ≤ f.limit)
include positive room

theorem trace_perm (enough : f.size < fuel) :
    ((trace order fuel f).map Prod.fst).Perm (f.inFlight ++ f.waiting) := by
  induction fuel generalizing f with
  | zero => cases enough
  | succ fuel ih =>
    have round := round positive room (order f.launch)
    simp only [trace]
    generalize f.launch.settle (order f.launch) = outcome at round
    cases round with
    | finished nothing => rw [nothing]; rfl
    | back call rest calls limit room size peak =>
      have later := ih (limit ▸ positive) (limit ▸ room) (by omega)
      exact (later.cons call).trans calls

theorem trace_inFlight : ∀ moment ∈ trace order fuel f, moment.2.inFlight.length ≤ f.limit := by
  induction fuel generalizing f with
  | zero => intro moment member; cases member
  | succ fuel ih =>
    have sent := launch_length room
    have round := round positive room (order f.launch)
    simp only [trace]
    generalize f.launch.settle (order f.launch) = outcome at round
    cases round with
    | finished => intro moment member; cases member
    | back call rest calls limit room size peak =>
      intro moment member
      rcases List.mem_cons.mp member with rfl | later
      · exact sent ▸ Nat.min_le_left _ _
      · rw [← limit]
        exact ih (limit ▸ positive) (limit ▸ room) moment later

/-- As many calls as the limit allows are in flight at once, or all if there are not so many. -/
theorem final_peak (enough : f.size < fuel) :
    (final order fuel f).peak = max f.peak (min f.limit f.size) := by
  induction fuel generalizing f with
  | zero => cases enough
  | succ fuel ih =>
    have sent := launch_length room
    have round := round positive room (order f.launch)
    simp only [final]
    generalize f.launch.settle (order f.launch) = outcome at round
    cases round with
    | finished => exact congrArg (max f.peak) sent
    | back call rest calls limit room size peak =>
      rw [ih (limit ▸ positive) (limit ▸ room) (by omega), peak, limit]
      omega

end Runs

end OpticalAccess.Fanout
