import DuplexStream.Proofs.Session.Forecast
import Mathlib.Algebra.GroupWithZero.Nat

/-!
# The times of a script

When the data messages of a script arrive, how long the script takes, and what of it a session
without acknowledgements hears: the messages up to the one at which the trigger fires, as long as no
request comes before (`Outside.foresee_plain`).
-/

namespace DuplexStream

namespace ScriptStep

/-- The time that a line of a script takes. -/
def span : ScriptStep → Nat
  | .wait d => d.ticks
  | .send _ => 0

/-- The time that a script takes: the sum of its waits. -/
def total (steps : List ScriptStep) : Nat :=
  (steps.map span).sum

/-- The times at which the data messages of a script arrive that starts at a time. -/
def arrivals : List ScriptStep → Nat → List Nat
  | [], _ => []
  | .wait d :: rest, time => arrivals rest (time + d.ticks)
  | .send e :: rest, time =>
    if e.data?.isSome then time :: arrivals rest time else arrivals rest time

theorem le_of_mem_arrivals {steps : List ScriptStep} {time x : Nat} (h : x ∈ arrivals steps time) :
    time ≤ x := by
  induction steps generalizing time with
  | nil => simp [arrivals] at h
  | cons step rest ih =>
      cases step with
      | wait d => exact Nat.le_trans (Nat.le_add_right _ _) (ih h)
      | send e =>
          simp only [arrivals] at h
          split at h
          · rcases List.mem_cons.mp h with rfl | h
            · exact Nat.le_refl _
            · exact ih h
          · exact ih h

/-- A message arrives before the script is over. -/
theorem mem_arrivals_le {steps : List ScriptStep} {time x : Nat} (h : x ∈ arrivals steps time) :
    x ≤ time + total steps := by
  induction steps generalizing time with
  | nil => simp [arrivals] at h
  | cons step rest ih =>
      cases step with
      | wait d =>
          have := ih h
          simp only [total, List.map_cons, List.sum_cons, span] at this ⊢
          omega
      | send e =>
          have total_eq : total (.send e :: rest) = total rest := by simp [total, span]
          rw [total_eq]
          simp only [arrivals] at h
          split at h
          · rcases List.mem_cons.mp h with rfl | h
            · exact Nat.le_add_right _ _
            · exact ih h
          · exact ih h

/-- Messages arrive in the order of the script. -/
theorem pairwise_arrivals (steps : List ScriptStep) (time : Nat) :
    (arrivals steps time).Pairwise (· ≤ ·) := by
  induction steps generalizing time with
  | nil => exact .nil
  | cons step rest ih =>
      cases step with
      | wait d => exact ih _
      | send e =>
          simp only [arrivals]
          split
          · exact .cons (fun x hx => le_of_mem_arrivals hx) (ih time)
          · exact ih time

end ScriptStep

/-- The elements up to the first one of a kind, with that one. -/
def upTo (p : Nat → Bool) : List Nat → List Nat
  | [] => []
  | x :: l => if p x then [x] else x :: upTo p l

section UpTo

variable {p : Nat → Bool} {l : List Nat}

theorem mem_of_mem_upTo {x : Nat} (h : x ∈ upTo p l) : x ∈ l := by
  induction l with
  | nil => exact h
  | cons y l ih =>
      rw [upTo] at h
      split at h
      · exact List.mem_cons.mpr (Or.inl (List.mem_singleton.mp h))
      · exact List.mem_cons.mpr ((List.mem_cons.mp h).imp_right ih)

theorem upTo_of_none (h : l.find? p = none) : upTo p l = l := by
  induction l with
  | nil => rfl
  | cons y l ih =>
      rw [List.find?_cons] at h
      split at h
      · simp at h
      · rename_i hp
        simp only [upTo, hp, Bool.false_eq_true, if_false, ih h]

/-- The first element of a kind is the last one up to it. -/
theorem length_upTo {x : Nat} (h : l.find? p = some x) :
    (upTo p l).length = (l.takeWhile fun y => !p y).length + 1 := by
  induction l with
  | nil => simp at h
  | cons y l ih =>
      rw [List.find?_cons] at h
      split at h
      · rename_i hp
        simp [upTo, hp]
      · rename_i hp
        simp [upTo, hp, ih h]

theorem le_of_mem_upTo {x y : Nat} (sorted : l.Pairwise (· ≤ ·)) (h : l.find? p = some x)
    (mem : y ∈ upTo p l) : y ≤ x := by
  induction l with
  | nil => simp at h
  | cons z l ih =>
      rw [List.find?_cons] at h
      rw [List.pairwise_cons] at sorted
      cases hp : p z with
      | true =>
          simp only [hp, Option.some.injEq] at h
          simp only [upTo, hp, if_true, List.mem_singleton] at mem
          omega
      | false =>
          simp only [hp] at h
          simp only [upTo, hp, Bool.false_eq_true, if_false, List.mem_cons] at mem
          rcases mem with rfl | mem
          · exact sorted.1 x (List.mem_of_find?_eq_some h)
          · exact ih sorted.2 h mem

/-- Nothing before a time comes after the first element of a kind if that one is not before it. -/
theorem filter_upTo {e : Nat} (sorted : l.Pairwise (· ≤ ·))
    (later : ∀ x, l.find? p = some x → e < x) :
    (upTo p l).filter (fun y => decide (y ≤ e)) = l.filter fun y => decide (y ≤ e) := by
  induction l with
  | nil => rfl
  | cons z l ih =>
      rw [List.pairwise_cons] at sorted
      cases hp : p z with
      | true =>
          have hz : e < z := later z (by simp [hp])
          have noneEarlier : (z :: l).filter (fun y => decide (y ≤ e)) = [] := by
            rw [List.filter_eq_nil_iff]
            intro y hy
            have : z ≤ y := by
              rcases List.mem_cons.mp hy with rfl | hy
              · exact Nat.le_refl _
              · exact sorted.1 y hy
            simp only [decide_eq_true_eq]
            omega
          rw [noneEarlier]
          simp [upTo, hp, hz]
      | false =>
          have rest := ih sorted.2 fun x hx => later x (by simp [hp, hx])
          simp only [upTo, hp, Bool.false_eq_true, if_false, List.filter_cons, rest]

end UpTo

open ScriptStep

/-- What a session sees at the end of a script that does not hold. -/
def ScriptEnd.ending? : ScriptEnd → Option Ending
  | .close => some .remoteClosed
  | .fail st => some (.status st)
  | .hold => none

namespace Outside

/-- How a script ends the reading that has come to a time, and when. -/
def scriptEnd (late : Nat → Bool) (finish : ScriptEnd) (steps : List ScriptStep) (time : Nat) :
    Option (Ending × Nat) :=
  match (arrivals steps time).find? late with
  | some fired => some (.localCancel, fired)
  | none => finish.ending?.map fun t => (t, time + total steps)

theorem le_scriptEnd {late : Nat → Bool} {finish : ScriptEnd} {steps : List ScriptStep}
    {time e : Nat} {t : Ending} (h : scriptEnd late finish steps time = some (t, e)) :
    time ≤ e := by
  simp only [scriptEnd] at h
  split at h
  · rename_i fired hf
    simp only [Option.some.injEq, Prod.mk.injEq] at h
    exact h.2 ▸ le_of_mem_arrivals (List.mem_of_find?_eq_some hf)
  · obtain ⟨_, _, h⟩ := Option.map_eq_some_iff.mp h
    simp only [Prod.mk.injEq] at h
    omega

/-- The reading goes on until a time after its start: no request comes before it, nor the limit. -/
def lasts (o : Outside) (start n time : Nat) : Bool :=
  o.request.all (fun r => decide (start + time ≤ r.2)) && decide (time ≤ n)

variable {o : Outside} {late : Nat → Bool} {start n time : Nat} {steps : List ScriptStep}

theorem lasts_of_le {x y : Nat} (h : o.lasts start n x = true) (le : y ≤ x) :
    o.lasts start n y = true := by
  cases hr : o.request with
  | none =>
      simp only [lasts, hr, Option.all_none, Bool.true_and, decide_eq_true_eq] at h ⊢
      omega
  | some r =>
      simp only [lasts, hr, Option.all_some, Bool.and_eq_true, decide_eq_true_eq] at h ⊢
      omega

/-- A wait that does not last is cut short by the request, if there is one. -/
theorem foresee_wait (limit : o.limit = start + n)
    (due : ∀ r, o.request = some r → r.2 < o.limit) (d : Duration) (rest : List ScriptStep)
    (layer : Option (Layer Seeded)) :
    o.foresee (.wait d :: rest) none (start + time) layer =
      if o.lasts start n (time + d.ticks) then
        o.foresee rest none (start + (time + d.ticks)) layer
      else ([], o.request) := by
  simp only [foresee, Option.getD_none, limit]
  cases hr : o.request with
  | none =>
      simp only [lasts, hr, Option.any_none, Option.all_none, Bool.true_and, decide_eq_true_eq,
        Bool.false_eq_true, if_false]
      by_cases le : time + d.ticks ≤ n
      · rw [if_neg (by omega), if_pos le, Nat.add_assoc]
      · rw [if_pos (by omega), if_neg le]
  | some r =>
      have early := due r hr
      rw [limit] at early
      simp only [lasts, hr, Option.any_some, Option.all_some, Bool.and_eq_true, decide_eq_true_eq]
      by_cases le : start + time + d.ticks ≤ r.2
      · rw [if_neg (by omega), if_neg (by omega), if_pos (by omega), Nat.add_assoc]
      · rw [if_pos (by omega), if_neg (by omega)]

/-- Of what a script does after the end of a session nothing is heard, and it does not end the
session. -/
theorem foresee_over (late : Nat → Bool) (steps : List ScriptStep)
    (past : o.lasts start n time = false) :
    (upTo late (arrivals steps time)).filter (o.lasts start n) = [] ∧
      (match scriptEnd late o.finish steps time with
        | some (t, e) => if o.lasts start n e then some (t, start + e) else o.request
        | none => o.request) = o.request := by
  have beyond {x : Nat} (le : time ≤ x) : ¬ o.lasts start n x = true := by
    intro longer
    simp [lasts_of_le longer le] at past
  constructor
  · rw [List.filter_eq_nil_iff]
    intro x heard
    exact beyond (le_of_mem_arrivals (mem_of_mem_upTo heard))
  · cases ends : scriptEnd late o.finish steps time with
    | none => rfl
    | some r => exact if_neg (beyond (le_scriptEnd ends))

/-- What is foreseen of a plain session: it hears the messages up to the one at which the trigger
fires, as long as it lasts, and the script or a request ends it. -/
theorem foresee_plain (fires : ∀ x, o.fires (start + x) = late x) (limit : o.limit = start + n)
    (due : ∀ r, o.request = some r → r.2 < o.limit) (now : o.lasts start n time = true) :
    (o.foresee steps none (start + time) none).1.length =
        ((upTo late (arrivals steps time)).filter (o.lasts start n)).length ∧
      (o.foresee steps none (start + time) none).2 =
        match scriptEnd late o.finish steps time with
        | some (t, e) => if o.lasts start n e then some (t, start + e) else o.request
        | none => o.request := by
  induction steps generalizing time with
  | nil =>
      cases hf : o.finish <;>
        simp [foresee, arrivals, upTo, scriptEnd, ScriptEnd.ending?, hf, total, now]
  | cons step rest ih =>
      cases step with
      | wait d =>
          have same : scriptEnd late o.finish (.wait d :: rest) time =
              scriptEnd late o.finish rest (time + d.ticks) := by
            simp only [scriptEnd, arrivals, total, List.map_cons, List.sum_cons, span,
              Nat.add_assoc]
          rw [foresee_wait limit due, same, arrivals]
          cases lasts : o.lasts start n (time + d.ticks) with
          | true => exact ih lasts
          | false =>
              obtain ⟨unheard, ends⟩ := foresee_over late rest lasts
              rw [unheard, ends]
              exact ⟨rfl, rfl⟩
      | send e =>
          cases hd : e.data? with
          | none =>
              have same : scriptEnd late o.finish (.send e :: rest) time =
                  scriptEnd late o.finish rest time := by
                simp [scriptEnd, arrivals, hd, total, span]
              have arrive : arrivals (.send e :: rest) time = arrivals rest time := by
                simp [arrivals, hd]
              rw [same, arrive]
              simp only [foresee, hd]
              exact ih now
          | some m =>
              have arrive : arrivals (.send e :: rest) time = time :: arrivals rest time := by
                simp [arrivals, hd]
              cases hl : late time with
              | true =>
                  have ends : scriptEnd late o.finish (.send e :: rest) time =
                      some (.localCancel, time) := by
                    simp [scriptEnd, arrive, hl]
                  rw [ends, arrive]
                  simp [foresee, hd, stalls, goOn, fires, hl, upTo, now]
              | false =>
                  have same : scriptEnd late o.finish (.send e :: rest) time =
                      scriptEnd late o.finish rest time := by
                    simp [scriptEnd, arrive, hl, total, span]
                  obtain ⟨length, ends⟩ := ih now
                  rw [same, arrive, ← ends]
                  simp [foresee, hd, stalls, goOn, fires, hl, upTo, now, length]

end Outside

end DuplexStream
