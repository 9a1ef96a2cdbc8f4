import ElementLocator.Proofs.OutlineText
import ElementLocator.Proofs.SearchStep

/-! # Traces of reads

    What a walk asks a backend for is seen from outside, read by read. A task follows a sequence
    of reads (`Task.Follows`) if it makes them in order, goes no further than the first one that
    stops it, and fails as this read makes it fail.

    * `upTo_append` — a sequence in two parts stops in the first of them, or goes through it;
    * `Follows.bind`, `Follows.collect`, `Follows.each` — a task that is put together from others
      follows their reads one after the other. -/

namespace ElementLocator

-- ── sequences that are cut off ────────────────────────────────────────────

section UpTo

variable {α : Type}

/-- A sequence up to the first item that stops it, this one included. -/
def upTo (stops : α → Bool) : List α → List α
  | [] => []
  | a :: rest => if stops a then [a] else a :: upTo stops rest

variable {stops : α → Bool}

theorem upTo_singleton (a : α) : upTo stops [a] = [a] := by
  show (if stops a then [a] else [a]) = [a]
  rw [ite_self]

/-- A sequence in two parts stops in the first of them, or goes through it. -/
theorem upTo_append (xs ys : List α) :
    upTo stops (xs ++ ys) = if xs.any stops then upTo stops xs else xs ++ upTo stops ys := by
  induction xs with
  | nil => rfl
  | cons a rest ih =>
      rw [List.cons_append, upTo, upTo, ih, List.any_cons]
      by_cases ha : stops a = true
      · simp [ha]
      · by_cases hrest : rest.any stops = true <;> simp [ha, hrest]

theorem upTo_of_not_any {xs : List α} (h : xs.any stops = false) : upTo stops xs = xs := by
  have happend : upTo stops (xs ++ []) = if xs.any stops then upTo stops xs else xs ++ upTo stops [] :=
    upTo_append xs []
  rw [List.append_nil, h] at happend
  rw [happend]
  exact List.append_nil xs

theorem upTo_sublist (xs : List α) : (upTo stops xs).Sublist xs := by
  induction xs with
  | nil => exact List.Sublist.slnil
  | cons a rest ih =>
      rw [upTo]
      by_cases ha : stops a = true
      · rw [if_pos ha]
        exact (List.nil_sublist rest).cons_cons a
      · rw [if_neg ha]
        exact ih.cons_cons a

/-- Whether the last item stops a sequence does not show in what is left of it. -/
theorem upTo_append_singleton {stops' : α → Bool} {xs : List α} (a : α)
    (h : ∀ b ∈ xs, stops b = stops' b) : upTo stops (xs ++ [a]) = upTo stops' (xs ++ [a]) := by
  induction xs with
  | nil => rw [List.nil_append, upTo_singleton, upTo_singleton]
  | cons b rest ih =>
      rw [List.cons_append, upTo, upTo, h b List.mem_cons_self,
        ih fun c hc => h c (List.mem_cons_of_mem b hc)]

theorem upTo_congr {stops' : α → Bool} {xs : List α} (h : ∀ a ∈ xs, stops a = stops' a) :
    upTo stops xs = upTo stops' xs := by
  induction xs with
  | nil => rfl
  | cons a rest ih =>
      rw [upTo, upTo, h a List.mem_cons_self, ih fun b hb => h b (List.mem_cons_of_mem a hb)]

/-- A sequence that is cut off ends in the item that stops it. -/
theorem getLast?_upTo {ε : Type} {stop : α → Option ε} {xs : List α} {e : ε}
    (h : xs.findSome? stop = some e) :
    ∃ a, (upTo (fun a => (stop a).isSome) xs).getLast? = some a ∧ stop a = some e := by
  induction xs with
  | nil => exact nomatch h
  | cons a rest ih =>
      rw [List.findSome?_cons] at h
      cases ha : stop a with
      | some f =>
          rw [ha] at h
          refine ⟨a, ?_, by rw [ha]; exact h⟩
          simp [upTo, ha]
      | none =>
          rw [ha] at h
          obtain ⟨b, hb, hstop⟩ := ih h
          refine ⟨b, ?_, hstop⟩
          have hcons : upTo (fun a => (stop a).isSome) (a :: rest) =
              a :: upTo (fun a => (stop a).isSome) rest := by
            simp [upTo, ha]
          rw [hcons, List.getLast?_cons, hb]
          rfl

theorem any_isSome_eq_false_iff {ε : Type} {stop : α → Option ε} {xs : List α} :
    (xs.any fun a => (stop a).isSome) = false ↔ xs.findSome? stop = none := by
  rw [List.findSome?_eq_none_iff, List.any_eq_false]
  simp only [Bool.not_eq_true, Option.isSome_eq_false_iff, Option.isNone_iff_eq_none]

theorem any_isSome_of_findSome? {ε : Type} {stop : α → Option ε} {xs : List α} {e : ε}
    (h : xs.findSome? stop = some e) : (xs.any fun a => (stop a).isSome) = true := by
  cases hany : xs.any fun a => (stop a).isSome with
  | true => rfl
  | false => exact nomatch h.symm.trans (any_isSome_eq_false_iff.mp hany)

end UpTo

namespace Report

variable {τ ε α β γ : Type}

/-- It does not matter how a sequence of three tasks is put together. -/
theorem bind_assoc (x : Report τ ε α) (f : α → Report τ ε β) (g : β → Report τ ε γ) :
    (x >>= f) >>= g = x >>= fun a => f a >>= g := by
  show Report.bind (Report.bind x f) g = Report.bind x fun a => Report.bind (f a) g
  simp only [Report.bind]
  cases x.outcome with
  | error e => rfl
  | ok a =>
      dsimp only
      cases (f a).outcome with
      | error e => rfl
      | ok b =>
          dsimp only
          rw [List.append_assoc]

end Report

-- ── tasks that follow reads ───────────────────────────────────────────────

namespace Task

variable {ν α β γ : Type}

theorem askedReads_append (ns ms : List (Note ν)) :
    askedReads (ns ++ ms) = askedReads ns ++ askedReads ms := List.filterMap_append

/-- A task that makes reads in order, up to the first one that stops it, and fails as this one
    makes it fail. -/
structure Follows (stop : ν × String → Option Failure) (x : Task ν α) (reads : List (ν × String)) :
    Prop where
  made : askedReads x.notes = upTo (fun r => (stop r).isSome) reads
  fault : x.fault? = reads.findSome? stop

variable {stop : ν × String → Option Failure}

theorem Follows.quiet {x : Task ν α} (hnotes : askedReads x.notes = []) (hfault : x.fault? = none) :
    Follows stop x [] := ⟨hnotes, hfault⟩

theorem Follows.pure (a : α) : Follows stop (Pure.pure a : Task ν α) [] := .quiet rfl rfl

theorem Follows.log (level : LogLevel) (name : String) (fields : List (String × Json)) :
    Follows stop (log level name fields : Task ν Unit) [] := .quiet rfl rfl

theorem Follows.congr {stop' : ν × String → Option Failure} {x : Task ν α} {reads : List (ν × String)}
    (hx : Follows stop x reads) (hsame : ∀ r ∈ reads, stop' r = stop r) : Follows stop' x reads := by
  constructor
  · rw [hx.made]
    exact upTo_congr fun r hr => by rw [hsame r hr]
  · rw [hx.fault]
    exact findSome?_congr fun r hr => (hsame r hr).symm

/-- **ONE TASK AFTER THE OTHER** follows the reads of both; the second one makes none if the first
    one was stopped. -/
theorem Follows.bind {x : Task ν α} {f : α → Task ν β} {reads : List (ν × String)}
    (hx : Follows stop x reads) (later : List (ν × String))
    (hf : ∀ a, x.outcome = .ok a → Follows stop (f a) later) :
    Follows stop (x >>= f) (reads ++ later) := by
  have hfault := hx.fault
  constructor
  · rw [Report.notes_bind, askedReads_append, hx.made, upTo_append]
    cases hstop : reads.findSome? stop with
    | some e =>
        rw [hstop] at hfault
        rw [Report.fault?_eq_some_iff.mp hfault, if_pos (any_isSome_of_findSome? hstop)]
        exact List.append_nil _
    | none =>
        rw [hstop] at hfault
        obtain ⟨a, ha⟩ := Report.fault?_eq_none_iff.mp hfault
        have hgoes := any_isSome_eq_false_iff.mpr hstop
        rw [ha, hgoes, upTo_of_not_any hgoes]
        show reads ++ askedReads (f a).notes = reads ++ _
        rw [(hf a ha).made]
  · rw [Report.fault?_bind (g := later.findSome? stop) fun a ha => (hf a ha).fault, hfault,
      List.findSome?_append]

/-- A task that asks for nothing can still fail over what was read last. -/
theorem Follows.bind_last {stop' : ν × String → Option Failure} {x : Task ν α} {f : α → Task ν β}
    {g : Option Failure} (reads : List (ν × String)) (last : ν × String)
    (hx : Follows stop x (reads ++ [last])) (hsame : ∀ r ∈ reads, stop' r = stop r)
    (hlast : stop' last = (stop last).or g) (hquiet : ∀ a, askedReads (f a).notes = [])
    (hf : ∀ a, x.outcome = .ok a → (f a).fault? = g) : Follows stop' (x >>= f) (reads ++ [last]) := by
  constructor
  · have hnotes : askedReads (x >>= f).notes = askedReads x.notes := by
      rw [Report.notes_bind, askedReads_append]
      cases x.outcome with
      | error e => exact List.append_nil _
      | ok a =>
          dsimp only
          rw [hquiet a, List.append_nil]
    rw [hnotes, hx.made]
    exact upTo_append_singleton last fun r hr => by rw [hsame r hr]
  · rw [Report.fault?_bind hf, hx.fault, List.findSome?_append, List.findSome?_append,
      List.findSome?_singleton, List.findSome?_singleton, hlast, Option.or_assoc,
      findSome?_congr hsame]

/-- A task for every item follows the reads of all of them in order; the items stand for others,
    whose reads are known. -/
theorem Follows.collect {f : α → Task ν (List β)} {g : γ → α} {items : List γ}
    {reads : γ → List (ν × String)} (hf : ∀ c ∈ items, Follows stop (f (g c)) (reads c)) :
    Follows stop (Report.collect f (items.map g)) (items.flatMap reads) := by
  induction items with
  | nil => exact .quiet rfl rfl
  | cons c rest ih =>
      rw [List.map_cons, Report.collect_cons, List.flatMap_cons]
      refine (hf c List.mem_cons_self).bind _ fun first _ => ?_
      rw [← List.append_nil (rest.flatMap reads)]
      exact (ih fun d hd => hf d (List.mem_cons_of_mem c hd)).bind _ fun others _ => .pure _

theorem Follows.each {f : α → Task ν Unit} {g : γ → α} {items : List γ}
    {reads : γ → List (ν × String)} (hf : ∀ c ∈ items, Follows stop (f (g c)) (reads c)) :
    Follows stop (Report.each f (items.map g)) (items.flatMap reads) := by
  induction items with
  | nil => exact .quiet rfl rfl
  | cons c rest ih =>
      rw [List.map_cons, Report.each_cons, List.flatMap_cons]
      exact (hf c List.mem_cons_self).bind _ fun _ _ => ih fun d hd => hf d (List.mem_cons_of_mem c hd)

/-- Lines ask for nothing. -/
theorem Follows.lines (ls : List String) :
    Follows stop (Report.each (fun s => (Report.note (.line s) : Task ν Unit)) ls) [] := by
  rw [Outline.each_line]
  refine .quiet ?_ rfl
  rw [askedReads, List.filterMap_map]
  exact List.filterMap_eq_nil_iff.mpr fun _ _ => rfl

/-- The text of an outline asks for what its writing asks for, and fails as it does. -/
theorem Follows.text {access : TreeAccess ν} {limit : DepthLimit} {node : ν} {reads : List (ν × String)}
    (h : Follows stop (Outline.write access limit.levels (limit.levels + 1) 0 node) reads) :
    Follows stop (Outline.text access (.ok limit) node) reads := by
  have hroot : Outline.ofRoot access (.ok limit) node =
      Outline.write access limit.levels (limit.levels + 1) 0 node := rfl
  constructor
  · rw [← h.made, ← hroot]
    show List.filterMap _ (List.filter _ _) = _
    rw [List.filterMap_filter]
    refine congrArg (List.filterMap · _) (funext fun n => ?_)
    cases n <;> rfl
  · rw [← h.fault, ← hroot]
    simp only [Outline.text, Report.fault?]
    cases (Outline.ofRoot access (.ok limit) node).outcome <;> rfl

end Task

end ElementLocator
