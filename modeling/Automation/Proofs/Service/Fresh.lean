import Automation.Proofs.Service.Queue
import Automation.Service.Exchange

namespace Automation

namespace Service

variable {c : Configuration} {definition : Value} {s s' : State} {payloads : List Fields}
  {tag : Log.Record → Log.Record} {w : Sent} {body : Body} {path : String}

theorem queueOne_keeps_fresh {p : Fields} {records : List Log.Record} {id : String} (hs : s.Fresh)
    (h : queueOne c definition s p = .ok (s', records, id)) : s'.Fresh := by
  cases hd : Envelope.opened definition with
  | error f => simp [queueOne, hd, bind, Except.bind] at h
  | ok opened =>
    cases hp : Envelope.opened (.object p) with
    | error f => simp [queueOne, hd, hp, bind, Except.bind] at h
    | ok payload =>
      rw [queueOne_eq hd hp] at h
      simp only [Except.ok.injEq, Prod.mk.injEq] at h
      rw [← h.1]
      exact hs.after (taskAt c opened s payload)

theorem queue_keeps_fresh (hs : s.Fresh) : (queue c definition s payloads).1.Fresh := by
  induction payloads generalizing s with
  | nil => exact hs
  | cons p rest ih =>
    cases hq : queueOne c definition s p with
    | error f =>
      simp only [queue, hq]
      exact hs
    | ok next =>
      obtain ⟨s', records, id⟩ := next
      simp only [queue, hq]
      exact ih (queueOne_keeps_fresh hs hq)

theorem dispatch_keeps_fresh (hs : s.Fresh) : (dispatch c s tag w payloads).state.Fresh := by
  have hq : (queue c w.definition s payloads).1.Fresh := queue_keeps_fresh hs
  unfold dispatch
  dsimp only
  split
  · exact hs
  · exact hs
  · split
    · exact hs
    · exact hs
    · split
      · exact hq
      · exact hq

theorem answer_keeps_fresh (route : Route) (hs : s.Fresh) :
    (answer c s tag body route).state.Fresh := by
  cases route with
  | root => exact hs
  | health => exact hs
  | catalog => exact hs
  | task id => exact hs
  | review =>
    simp only [answer]
    split <;> exact hs
  | preview =>
    simp only [answer]
    split
    · exact hs
    · exact hs
    · split <;> exact hs
  | dispatch =>
    simp only [answer]
    split
    · exact hs
    · exact dispatch_keeps_fresh hs

theorem course_keeps_fresh {method : String} (hs : s.Fresh) :
    (course c s tag method path body).1.Fresh := by
  unfold course
  split
  · split
    · exact answer_keeps_fresh _ hs
    · exact hs
  · exact hs

theorem visit_keeps_fresh {r : Request} (hs : s.Fresh) : (visit c s r path).1.Fresh := by
  have hcounted : { s with requests := s.requests + 1 }.Fresh := hs
  exact course_keeps_fresh hcounted

theorem pursue_keeps_fresh {r : Request} (moves : ℕ) (hs : s.Fresh) :
    (pursue c r moves s path).1.Fresh := by
  induction moves generalizing s path with
  | zero =>
    have hv : (visit c s r path).1.Fresh := visit_keeps_fresh hs
    rcases hvisit : visit c s r path with ⟨s', records, outcome, id⟩
    rw [hvisit] at hv
    unfold pursue
    cases outcome <;> simpa only [hvisit] using hv
  | succ moves ih =>
    have hv : (visit c s r path).1.Fresh := visit_keeps_fresh hs
    rcases hvisit : visit c s r path with ⟨s', records, outcome, id⟩
    rw [hvisit] at hv
    unfold pursue
    cases outcome with
    | moved next => simpa only [hvisit] using ih hv
    | replied reply => simpa only [hvisit] using hv
    | broken f => simpa only [hvisit] using hv

theorem exchange_keeps_fresh (r : Request) (hs : s.Fresh) : (exchange c s r).1.Fresh := by
  unfold exchange
  split
  · exact hs
  · exact pursue_keeps_fresh mostMoves hs

/-- The ids that a service gives next are new after any requests, if it began without tasks. -/
theorem fresh_after_requests (c : Configuration) (h : s.states = []) (rs : List Request) :
    (rs.foldl (fun s r ↦ (exchange c s r).1) s).Fresh := by
  have hs : s.Fresh := State.fresh_of_nil h
  clear h
  induction rs generalizing s with
  | nil => exact hs
  | cons r rs ih => exact ih (exchange_keeps_fresh r hs)

end Service

end Automation
