import Mathlib.Data.List.Induction
import Mathlib.Data.List.Nodup
import Mathlib.Data.List.Perm.Basic
import Phrasebook.Acts
import Phrasebook.Lifecycle.Sharing
/-!
# Every release once, whoever releases

However the hands on a shared scope take turns, every release that was registered is begun at most once, by the
call that took it off the register; what a call takes is the latest of what nobody has taken; and a call that
returns has found nothing left and counts its own releases (`Shared.releases_begin_once`).

The numbers of the resources carry the argument. At every time those that have been taken and those on the
register make up all that have been given out (`Shared.Sound`), and the register is falling, so its first is the
latest. Which move leads where is said once, by `Shared.Does`; what may be told next, given what has been told,
is `Shared.Proper`. One move keeps the first and tells only what is proper (`Shared.Sound.does`), and so does
every list of moves.
-/

set_option autoImplicit false

namespace Phrasebook.Lifecycle

/-- The call that something is about. -/
def Happening.drain? : Happening → Option Nat
  | .registered .. => none
  | .took i _ | .invoked i _ _ _ | .ended i _ _ _ | .returned i _ => some i

/-- In a list without repetitions a number is given out by one entry only. -/
theorem eq_of_nodup_filterMap {α β : Type} {f : α → Option β} {l : List α} (h : (l.filterMap f).Nodup)
    {a b : α} {n : β} (ha : a ∈ l) (hb : b ∈ l) (hfa : f a = some n) (hfb : f b = some n) : a = b := by
  induction l with
  | nil => cases ha
  | cons x l ih =>
    cases hx : f x with
    | none =>
      rw [List.filterMap_cons_none hx] at h
      have ha' : a ∈ l := (List.mem_cons.1 ha).resolve_left fun he => by rw [← he, hfa] at hx; cases hx
      have hb' : b ∈ l := (List.mem_cons.1 hb).resolve_left fun he => by rw [← he, hfb] at hx; cases hx
      exact ih h ha' hb'
    | some m =>
      rw [List.filterMap_cons_some hx, List.nodup_cons] at h
      have hout : ∀ y ∈ l, f y ≠ some m := fun y hy hfy => h.1 (List.mem_filterMap.2 ⟨y, hy, hfy⟩)
      rcases List.mem_cons.1 ha with rfl | ha' <;> rcases List.mem_cons.1 hb with rfl | hb'
      · rfl
      · exact absurd (hfb.trans (hfa.symm.trans hx)) (hout b hb')
      · exact absurd (hfa.trans (hfb.symm.trans hx)) (hout a ha')
      · exact ih h.2 ha' hb'

namespace Shared

/-! ## Reading what has been told -/

/-- The resources that have been registered. -/
def registered (told : List Happening) : List Nat :=
  told.filterMap fun
    | .registered n _ _ => some n
    | _ => none

/-- The resources that have been taken off the register, by any call. -/
def taken (told : List Happening) : List Nat :=
  told.filterMap fun
    | .took _ n => some n
    | _ => none

/-- The resources whose release has been begun, by any call. -/
def invoked (told : List Happening) : List Nat :=
  told.filterMap fun
    | .invoked _ n _ _ => some n
    | _ => none

/-- How many releases of a call did not go well. -/
def failures (i : Nat) (told : List Happening) : Nat :=
  told.countP fun
    | .ended j _ _ e => j == i && e.isCounted
    | _ => false

/-- What has been told last of a call. -/
def lastOf (i : Nat) (told : List Happening) : Option Happening :=
  (told.filter (·.drain? == some i)).getLast?

/-- A call is between two releases: it has not begun to release, or its last release is over and did not break
down. -/
def Free (i : Nat) (told : List Happening) : Prop :=
  ∀ x, lastOf i told = some x → ∃ n name e, x = .ended i n name e ∧ ∀ m, e ≠ .broke m

/-- What may be told next. -/
def Proper (told : List Happening) : Happening → Prop
  | .registered n _ _ => n = (registered told).length
  | .took i n => Free i told ∧
      n ∈ registered told ∧ n ∉ taken told ∧ ∀ m ∈ registered told, m ∉ taken told → m ≤ n
  | .invoked i n name release =>
    lastOf i told = some (.took i n) ∧ .registered n name release ∈ told ∧ n ∉ invoked told
  | .ended i n name _ => ∃ release, lastOf i told = some (.invoked i n name release)
  | .returned i k => Free i told ∧ k = failures i told ∧ ∀ n ∈ registered told, n ∈ taken told

variable {told : List Happening} {x : Happening} {i : Nat}

/-- What is registered last is the last on the list of what was registered. -/
theorem registered_concat (told : List Happening) (x : Happening) :
    registered (told ++ [x]) = registered told ++ registered [x] := List.filterMap_append

/-- What is taken last is the last on the list of what was taken. -/
theorem taken_concat (told : List Happening) (x : Happening) :
    taken (told ++ [x]) = taken told ++ taken [x] := List.filterMap_append

/-- What is invoked last is the last on the list of what was invoked. -/
theorem invoked_concat (told : List Happening) (x : Happening) :
    invoked (told ++ [x]) = invoked told ++ invoked [x] := List.filterMap_append

/-- A release that does not go well counts once. -/
theorem failures_concat (i : Nat) (told : List Happening) (x : Happening) :
    failures i (told ++ [x]) = failures i told + failures i [x] := List.countP_append

/-- What is told of a call registers nothing. -/
theorem registered_of_drain (h : x.drain? = some i) : registered [x] = [] := by
  cases x with
  | registered n name release => cases h
  | _ => rfl

/-- What has just been told of a call is the last that was told of it. -/
theorem lastOf_concat_self (h : x.drain? = some i) : lastOf i (told ++ [x]) = some x := by
  simp [lastOf, List.filter_append, h]

/-- What is told of another call does not change it. -/
theorem lastOf_concat_of_ne (h : x.drain? ≠ some i) : lastOf i (told ++ [x]) = lastOf i told := by
  simp [lastOf, List.filter_append, h]

/-- What is told of another call is no failure of this one. -/
theorem failures_of_ne (h : x.drain? ≠ some i) : failures i [x] = 0 := by
  cases x with
  | ended j n name e =>
    have hne : j ≠ i := fun hj => h (congrArg some hj)
    simp [failures, hne]
  | _ => rfl

/-- A call of which nothing has been told has no failures. -/
theorem failures_eq_zero (h : ∀ x ∈ told, x.drain? ≠ some i) : failures i told = 0 := by
  induction told with
  | nil => rfl
  | cons x told ih =>
    have hx := failures_of_ne (h x List.mem_cons_self)
    have hrest := ih fun y hy => h y (List.mem_cons_of_mem _ hy)
    change List.countP _ ([x] ++ told) = 0
    rw [List.countP_append]
    change failures i [x] + failures i told = 0
    omega

/-- Nor is there a last thing that was told of it. -/
theorem lastOf_eq_none (h : ∀ x ∈ told, x.drain? ≠ some i) : lastOf i told = none := by
  have : told.filter (·.drain? == some i) = [] := List.filter_eq_nil_iff.2 fun x hx => by simpa using h x hx
  rw [lastOf, this]
  rfl

/-- What was told last has been told. -/
theorem mem_of_lastOf (h : lastOf i told = some x) : x ∈ told :=
  (List.mem_filter.1 (List.mem_of_getLast? h)).1

/-- A resource has been taken exactly if it was told that some call took it. -/
theorem mem_taken {n : Nat} : n ∈ taken told ↔ ∃ i, .took i n ∈ told := by
  simp only [taken, List.mem_filterMap]
  constructor
  · rintro ⟨x, hx, hn⟩
    cases x with
    | took i m =>
      obtain rfl := Option.some.inj hn
      exact ⟨i, hx⟩
    | _ => cases hn
  · rintro ⟨i, hi⟩
    exact ⟨_, hi, rfl⟩

/-- A release has been begun exactly if it was told that some call invoked it. -/
theorem mem_invoked {n : Nat} : n ∈ invoked told ↔ ∃ i name release, .invoked i n name release ∈ told := by
  simp only [invoked, List.mem_filterMap]
  constructor
  · rintro ⟨x, hx, hn⟩
    cases x with
    | invoked i m name release =>
      obtain rfl := Option.some.inj hn
      exact ⟨i, name, release, hx⟩
    | _ => cases hn
  · rintro ⟨i, name, release, hi⟩
    exact ⟨_, hi, rfl⟩

/-- Who has taken a resource is the only one. -/
theorem drain_eq_of_took {j n : Nat} (h : (taken told).Nodup) (hi : .took i n ∈ told) (hj : .took j n ∈ told) :
    i = j := by
  have := eq_of_nodup_filterMap h hi hj rfl rfl
  injection this

/-! ## What one move does -/

/-- What can happen in one move, and what it makes of the register, the numbers given out and the calls. -/
inductive Does (s : Shared) : Option Happening → List Held → Nat → List Drain → Prop where
  | nothing : Does s none s.register s.count s.drains
  | call : Does s none s.register s.count (s.drains ++ [({} : Drain)])
  | register (name : String) (release : Script) :
    Does s (some (.registered s.count name release)) (⟨s.count, name, release⟩ :: s.register) (s.count + 1) s.drains
  | takes {i : Nat} {d : Drain} {h : Held} {rest : List Held} (hi : s.drains[i]? = some d)
      (hd : d.stage = .looking) (hs : s.register = h :: rest) :
    Does s (some (.took i h.number)) rest s.count (s.drains.set i ⟨.taken h, d.failed⟩)
  | returns {i : Nat} {d : Drain} (hi : s.drains[i]? = some d) (hd : d.stage = .looking) (hs : s.register = []) :
    Does s (some (.returned i d.failed)) s.register s.count (s.drains.set i ⟨.returned, d.failed⟩)
  | invokes {i : Nat} {d : Drain} {h : Held} (hi : s.drains[i]? = some d) (hd : d.stage = .taken h)
      (since begun : Nat) :
    Does s (some (.invoked i h.number h.name h.release)) s.register s.count
      (s.drains.set i ⟨.releasing h.number h.name h.release since begun, d.failed⟩)
  | goesOn {i : Nat} {d : Drain} {n : Nat} {name : String} {left : Script} {since begun : Nat}
      (hi : s.drains[i]? = some d) (hd : d.stage = .releasing n name left since begun) (left' : Script)
      (since' : Nat) :
    Does s none s.register s.count (s.drains.set i ⟨.releasing n name left' since' begun, d.failed⟩)
  | registers {i : Nat} {d : Drain} {n : Nat} {name : String} {left : Script} {since begun : Nat}
      (hi : s.drains[i]? = some d) (hd : d.stage = .releasing n name left since begun) (left' : Script)
      (since' : Nat) (other : String) (release : Script) :
    Does s (some (.registered s.count other release)) (⟨s.count, other, release⟩ :: s.register) (s.count + 1)
      (s.drains.set i ⟨.releasing n name left' since' begun, d.failed⟩)
  | ends {i : Nat} {d : Drain} {n : Nat} {name : String} {left : Script} {since begun : Nat}
      (hi : s.drains[i]? = some d) (hd : d.stage = .releasing n name left since begun) (e : ReleaseEnd) :
    Does s (some (.ended i n name e)) s.register s.count
      (s.drains.set i ⟨e.stage, d.failed + if e.isCounted then 1 else 0⟩)

variable {d : Drain}

/-- Where a release is waited for it ends if its time is up, and nothing happens otherwise. -/
theorem does_await {s : Shared} {n : Nat} {name : String} {left : Script} {since begun : Nat}
    (hi : s.drains[i]? = some d) (hd : d.stage = .releasing n name left since begun) :
    s.Does (s.await i d.failed n name begun).1 (s.await i d.failed n name begun).2.register
      (s.await i d.failed n name begun).2.count (s.await i d.failed n name begun).2.drains := by
  unfold await
  split
  · exact .ends hi hd .late
  · exact .nothing

/-- **One move**, whichever it is. -/
theorem does_step (s : Shared) (m : Move) :
    s.Does (s.step m).1 (s.step m).2.register (s.step m).2.count (s.step m).2.drains := by
  change s.Does (s.move m).1 (s.move m).2.register (s.move m).2.count (s.move m).2.drains
  -- a call that goes on does what its own stage says; every other move leaves the calls alone
  cases m with
  | register name release => exact .register name release
  | call => exact .call
  | pass span => exact .nothing
  | go i =>
    unfold move
    dsimp only
    split
    case h_2 => exact .nothing
    rename_i d hi
    unfold goOn
    split
    case h_1 hd =>
      split
      case h_1 hs => exact .returns hi hd hs
      case h_2 h rest hs => exact .takes hi hd hs
    case h_2 h hd => exact .invokes hi hd _ _
    case h_3 n name left since begun hd =>
      split
      case h_1 e => exact .ends hi hd _
      case h_2 other release rest => exact .registers hi hd rest s.now other release
      case h_3 span rest =>
        split
        · exact .goesOn hi hd rest s.now
        · exact does_await hi hd
      case h_4 => exact does_await hi hd
    case h_4 => exact .nothing
    case h_5 => exact .nothing

/-! ## What every move keeps -/

/-- A call stands where it should, given what has been told. -/
structure Stands (told : List Happening) (i : Nat) (d : Drain) : Prop where
  failed : d.failed = failures i told
  looking : d.stage = .looking → Free i told
  taken : ∀ h, d.stage = .taken h →
    lastOf i told = some (.took i h.number) ∧ .registered h.number h.name h.release ∈ told ∧
      h.number ∉ invoked told
  releasing : ∀ n name left since begun, d.stage = .releasing n name left since begun →
    ∃ release, lastOf i told = some (.invoked i n name release)
  returned : d.stage = .returned → ∃ k, lastOf i told = some (.returned i k)
  broke : ∀ m, d.stage = .broke m → ∃ n name, lastOf i told = some (.ended i n name (.broke m))

/-- The register, the numbers given out and the calls are sound, given what has been told. -/
structure Sound (told : List Happening) (register : List Held) (count : Nat) (drains : List Drain) : Prop where
  numbered : registered told = List.range count
  parted : (taken told ++ register.map (·.number)).Perm (List.range count)
  falling : (register.map (·.number)).Pairwise (· > ·)
  named : ∀ r ∈ register, .registered r.number r.name r.release ∈ told
  stands : ∀ i d, drains[i]? = some d → Stands told i d
  known : ∀ x ∈ told, ∀ i, x.drain? = some i → i < drains.length
  taken_of_invoked : ∀ i n name release, .invoked i n name release ∈ told → .took i n ∈ told

/-- What is told of others moves a call only if it is the beginning of the release that it has taken. -/
theorem Stands.concat (h : Stands told i d) (hx : x.drain? ≠ some i)
    (hnew : ∀ r, d.stage = .taken r → r.number ∉ invoked [x]) : Stands (told ++ [x]) i d where
  failed := by rw [failures_concat, failures_of_ne hx, Nat.add_zero, h.failed]
  looking := by
    intro hd y hy
    rw [lastOf_concat_of_ne hx] at hy
    exact h.looking hd y hy
  taken := by
    intro r hr
    obtain ⟨hlast, hname, hfresh⟩ := h.taken r hr
    rw [lastOf_concat_of_ne hx, invoked_concat]
    refine ⟨hlast, List.mem_append_left _ hname, fun hmem => ?_⟩
    exact (List.mem_append.1 hmem).elim hfresh (hnew r hr)
  releasing := by
    intro n name left since begun hd
    rw [lastOf_concat_of_ne hx]
    exact h.releasing n name left since begun hd
  returned := by
    intro hd
    rw [lastOf_concat_of_ne hx]
    exact h.returned hd
  broke := by
    intro m hd
    rw [lastOf_concat_of_ne hx]
    exact h.broke m hd

/-- Nothing has been told of a call that has just been made. -/
theorem Stands.fresh (h : ∀ x ∈ told, x.drain? ≠ some i) : Stands told i {} where
  failed := (failures_eq_zero h).symm
  looking := fun _ x hx => by cases (lastOf_eq_none h).symm.trans hx
  taken := nofun
  releasing := nofun
  returned := nofun
  broke := nofun

/-- A call that has taken a resource from the register stands before its release. -/
theorem Stands.took (h : Stands told i d) {r : Held} (hname : .registered r.number r.name r.release ∈ told)
    (hr : r.number ∉ Shared.invoked told) :
    Stands (told ++ [.took i r.number]) i ⟨.taken r, d.failed⟩ where
  failed := by
    rw [failures_concat]
    exact h.failed
  looking := nofun
  taken := by
    rintro r' ⟨⟩
    rw [invoked_concat]
    refine ⟨lastOf_concat_self rfl, List.mem_append_left _ hname, fun hmem => hr ?_⟩
    exact (List.mem_append.1 hmem).resolve_right List.not_mem_nil
  releasing := nofun
  returned := nofun
  broke := nofun

/-- A call that has found nothing has returned. -/
theorem Stands.found_nothing (h : Stands told i d) :
    Stands (told ++ [.returned i d.failed]) i ⟨.returned, d.failed⟩ where
  failed := by
    rw [failures_concat]
    exact h.failed
  looking := nofun
  taken := nofun
  releasing := nofun
  returned := fun _ => ⟨d.failed, lastOf_concat_self rfl⟩
  broke := nofun

/-- A call that has begun a release waits for it. -/
theorem Stands.invoked (h : Stands told i d) {n : Nat} {name : String} {release left : Script} {since begun : Nat} :
    Stands (told ++ [.invoked i n name release]) i ⟨.releasing n name left since begun, d.failed⟩ where
  failed := by
    rw [failures_concat]
    exact h.failed
  looking := nofun
  taken := nofun
  releasing := by
    rintro n' name' left' since' begun' ⟨⟩
    exact ⟨release, lastOf_concat_self rfl⟩
  returned := nofun
  broke := nofun

/-- A call waits on while its release goes on. -/
theorem Stands.goesOn (h : Stands told i d) {n : Nat} {name : String} {left : Script} {since begun : Nat}
    (hd : d.stage = .releasing n name left since begun) (left' : Script) (since' : Nat) :
    Stands told i ⟨.releasing n name left' since' begun, d.failed⟩ where
  failed := h.failed
  looking := nofun
  taken := nofun
  releasing := by
    rintro n' name' left'' since'' begun' ⟨⟩
    exact h.releasing n name left since begun hd
  returned := nofun
  broke := nofun

/-- A call whose release is over looks for the next, unless the release has broken down. -/
theorem Stands.ended (h : Stands told i d) (n : Nat) (name : String) (e : ReleaseEnd) :
    Stands (told ++ [.ended i n name e]) i ⟨e.stage, d.failed + if e.isCounted then 1 else 0⟩ where
  failed := by
    rw [failures_concat, ← h.failed]
    simp [failures]
  looking := by
    intro hlooking y hy
    rw [lastOf_concat_self rfl] at hy
    obtain rfl := Option.some.inj hy
    refine ⟨n, name, e, rfl, ?_⟩
    rintro m rfl
    cases hlooking
  taken := by cases e <;> exact nofun
  releasing := by cases e <;> exact nofun
  returned := by cases e <;> exact nofun
  broke := by
    cases e with
    | broke m =>
      rintro m' ⟨⟩
      exact ⟨n, name, lastOf_concat_self rfl⟩
    | well | failed c | late => exact nofun

/-- A free call looks for the next release. -/
theorem Stands.looking_of_free (h : Stands told i d) (hfree : Free i told) : d.stage = .looking := by
  -- of every other stage something has been told that is not the good end of a release
  cases hd : d.stage with
  | looking => rfl
  | taken r =>
    obtain ⟨n, name, e, heq, -⟩ := hfree _ (h.taken r hd).1
    cases heq
  | releasing n name left since begun =>
    obtain ⟨release, hlast⟩ := h.releasing n name left since begun hd
    obtain ⟨n', name', e, heq, -⟩ := hfree _ hlast
    cases heq
  | returned =>
    obtain ⟨k, hlast⟩ := h.returned hd
    obtain ⟨n, name, e, heq, -⟩ := hfree _ hlast
    cases heq
  | broke m =>
    obtain ⟨n, name, hlast⟩ := h.broke m hd
    obtain ⟨n', name', e, heq, hwell⟩ := hfree _ hlast
    injection heq with _ _ _ he
    exact absurd he.symm (hwell m)

/-- A call that has taken something last is about to release it. -/
theorem Stands.taken_of_took (h : Stands told i d) {n : Nat} (hlast : lastOf i told = some (.took i n)) :
    ∃ r, d.stage = .taken r ∧ r.number = n := by
  cases hd : d.stage with
  | looking =>
    obtain ⟨n', name, e, heq, -⟩ := h.looking hd _ hlast
    cases heq
  | taken r =>
    have heq := Option.some.inj (((h.taken r hd).1.symm.trans hlast))
    injection heq with _ hn
    exact ⟨r, rfl, hn⟩
  | releasing n' name left since begun =>
    obtain ⟨release, hlast'⟩ := h.releasing n' name left since begun hd
    cases hlast'.symm.trans hlast
  | returned =>
    obtain ⟨k, hlast'⟩ := h.returned hd
    cases hlast'.symm.trans hlast
  | broke m =>
    obtain ⟨n', name, hlast'⟩ := h.broke m hd
    cases hlast'.symm.trans hlast

namespace Sound

variable {register : List Held} {count : Nat} {drains : List Drain}

/-- No resource is taken twice, as no number is on two lists. -/
theorem nodup_taken (h : Sound told register count drains) : (Shared.taken told).Nodup :=
  ((h.parted.nodup_iff.2 List.nodup_range).sublist (List.sublist_append_left _ _))

/-- What is on the register is what has been registered and not taken. -/
theorem mem_register_iff (h : Sound told register count drains) {n : Nat} :
    n ∈ register.map (·.number) ↔ n ∈ registered told ∧ n ∉ Shared.taken told := by
  have hnodup := h.parted.nodup_iff.2 List.nodup_range
  rw [List.nodup_append] at hnodup
  have hmem : n ∈ Shared.taken told ++ register.map (·.number) ↔ n ∈ List.range count := h.parted.mem_iff
  rw [h.numbered, ← hmem, List.mem_append]
  constructor
  · intro hn
    exact ⟨Or.inr hn, fun ht => hnodup.2.2 n ht n hn rfl⟩
  · rintro ⟨ht | hn, hnot⟩
    · exact absurd ht hnot
    · exact hn

/-- The other calls stand where they stood when one call does something. -/
theorem stands_set (h : Sound told register count drains) (d' : Drain) (hi : i < drains.length)
    (hself : Stands (told ++ [x]) i d') (hx : x.drain? = some i)
    (hnew : ∀ j d r, drains[j]? = some d → j ≠ i → d.stage = .taken r → r.number ∉ Shared.invoked [x]) :
    ∀ j d, (drains.set i d')[j]? = some d → Stands (told ++ [x]) j d := by
  intro j d hj
  by_cases hij : i = j
  · subst hij
    rw [List.getElem?_set_self hi] at hj
    obtain rfl := Option.some.inj hj
    exact hself
  · rw [List.getElem?_set_ne hij] at hj
    refine (h.stands j d hj).concat ?_ fun r hr => hnew j d r hj (Ne.symm hij) hr
    rw [hx]
    exact fun heq => hij (Option.some.inj heq)

/-- Only calls that there are have been told of. -/
theorem known_concat (h : Sound told register count drains) (hx : ∀ i, x.drain? = some i → i < drains.length) :
    ∀ y ∈ told ++ [x], ∀ i, y.drain? = some i → i < drains.length := by
  intro y hy j hj
  rcases List.mem_append.1 hy with hy | hy
  · exact h.known y hy j hj
  · rw [List.mem_singleton.1 hy] at hj
    exact hx j hj

/-- A call moves, and nothing is told of it. -/
theorem seat_silent (h : Sound told register count drains) (d' : Drain)
    (hself : i < drains.length → Stands told i d') :
    Sound told register count (drains.set i d') where
  numbered := h.numbered
  parted := h.parted
  falling := h.falling
  named := h.named
  stands := by
    intro j d hj
    obtain ⟨hlen, hget⟩ := List.getElem?_eq_some_iff.1 hj
    rw [List.length_set] at hlen
    by_cases hij : i = j
    · subst hij
      rw [List.getElem?_set_self hlen] at hj
      obtain rfl := Option.some.inj hj
      exact hself hlen
    · rw [List.getElem?_set_ne hij] at hj
      exact h.stands j d hj
  known := by simpa using h.known
  taken_of_invoked := h.taken_of_invoked

/-- A new call has nothing told of it. -/
theorem call (h : Sound told register count drains) : Sound told register count (drains ++ [({} : Drain)]) where
  numbered := h.numbered
  parted := h.parted
  falling := h.falling
  named := h.named
  stands := by
    intro j d hj
    -- the new call is the last one, and nothing has been told of it
    by_cases hlt : j < drains.length
    · rw [List.getElem?_append_left hlt] at hj
      exact h.stands j d hj
    · have hnone : ∀ x ∈ told, x.drain? ≠ some j := fun x hx hd => hlt (h.known x hx j hd)
      rw [List.getElem?_append_right (by omega), List.getElem?_singleton] at hj
      split at hj
      · obtain rfl := Option.some.inj hj
        exact .fresh hnone
      · cases hj
  known := by
    intro x hx j hj
    have := h.known x hx j hj
    rw [List.length_append]
    omega
  taken_of_invoked := h.taken_of_invoked

/-- What is registered gets the next number. -/
theorem put (h : Sound told register count drains) (name : String) (release : Script) :
    Sound (told ++ [.registered count name release]) (⟨count, name, release⟩ :: register) (count + 1) drains where
  numbered := by rw [registered_concat, h.numbered, List.range_succ]; rfl
  parted := by
    rw [taken_concat, List.range_succ, List.map_cons]
    -- the new number stands between those that were taken and those on the register
    rw [show Shared.taken [.registered count name release] = [] from rfl, List.append_nil]
    exact List.perm_middle.trans ((List.Perm.cons count h.parted).trans (List.perm_append_singleton count _).symm)
  falling := by
    rw [List.map_cons, List.pairwise_cons]
    refine ⟨fun n hn => ?_, h.falling⟩
    exact List.mem_range.1 (h.parted.mem_iff.1 (List.mem_append_right _ hn))
  named := by
    intro r hr
    rw [List.mem_append]
    rcases List.mem_cons.1 hr with rfl | hr
    · exact Or.inr (List.mem_singleton_self _)
    · exact Or.inl (h.named r hr)
  stands := fun j d hj => (h.stands j d hj).concat nofun fun _ _ => List.not_mem_nil
  known := h.known_concat nofun
  taken_of_invoked := by
    intro j n other script hmem
    have hold : .invoked j n other script ∈ told := by simpa using hmem
    exact List.mem_append_left _ (h.taken_of_invoked j n other script hold)

/-- A call moves and tells of it; perhaps it has taken the first off the register. -/
theorem tell {left : List Held} (h : Sound told register count drains) (d' : Drain) (hi : i < drains.length)
    (hx : x.drain? = some i) (hself : Stands (told ++ [x]) i d')
    (hnew : ∀ j d r, drains[j]? = some d → j ≠ i → d.stage = .taken r → r.number ∉ Shared.invoked [x])
    (hsub : left ⊆ register) (hleft : Shared.taken [x] ++ left.map (·.number) = register.map (·.number))
    (hinv : ∀ n name release, x = .invoked i n name release → .took i n ∈ told) :
    Sound (told ++ [x]) left count (drains.set i d') where
  numbered := by
    rw [registered_concat, h.numbered, registered_of_drain hx, List.append_nil]
  parted := by
    rw [taken_concat, List.append_assoc, hleft]
    exact h.parted
  falling := by
    have hfall := h.falling
    rw [← hleft] at hfall
    exact (List.pairwise_append.1 hfall).2.1
  named := fun r hr => List.mem_append_left _ (h.named r (hsub hr))
  stands := h.stands_set d' hi hself hx hnew
  known := by
    rw [List.length_set]
    refine h.known_concat fun j hj => ?_
    obtain rfl := Option.some.inj (hx.symm.trans hj)
    exact hi
  taken_of_invoked := by
    intro j n name release hmem
    rw [List.mem_append] at hmem ⊢
    left
    rcases hmem with hmem | hmem
    · exact h.taken_of_invoked j n name release hmem
    · obtain rfl := List.mem_singleton.1 hmem
      obtain rfl := Option.some.inj hx
      exact hinv n name release rfl

/-- What is first on the register is the latest of what nobody has taken. -/
theorem latest {r : Held} {rest : List Held} (h : Sound told (r :: rest) count drains) :
    r.number ∈ registered told ∧ r.number ∉ Shared.taken told ∧
      ∀ m ∈ registered told, m ∉ Shared.taken told → m ≤ r.number := by
  obtain ⟨hreg, hnot⟩ := h.mem_register_iff.1 (List.mem_map_of_mem List.mem_cons_self)
  refine ⟨hreg, hnot, fun m hm hmnot => ?_⟩
  have hmem := h.mem_register_iff.2 ⟨hm, hmnot⟩
  have hfall := h.falling
  rw [List.map_cons, List.mem_cons] at hmem
  rw [List.map_cons, List.pairwise_cons] at hfall
  rcases hmem with rfl | hmem
  · exact Nat.le_refl _
  · exact Nat.le_of_lt (hfall.1 m hmem)

/-- Nobody has begun the release of what nobody has taken. -/
theorem not_mem_invoked (h : Sound told register count drains) {n : Nat} (hn : n ∉ Shared.taken told) :
    n ∉ Shared.invoked told := by
  intro hinv
  obtain ⟨j, name, release, hj⟩ := mem_invoked.1 hinv
  exact hn (mem_taken.2 ⟨j, h.taken_of_invoked j n name release hj⟩)

/-- The number of a call that there is. -/
theorem lt_of_drain (hi : drains[i]? = some d) : i < drains.length := (List.getElem?_eq_some_iff.1 hi).1

/-- A call that looks takes the first off the register. -/
theorem takes {r : Held} {rest : List Held} (h : Sound told (r :: rest) count drains) (hi : drains[i]? = some d)
    (hd : d.stage = .looking) :
    Proper told (.took i r.number) ∧
      Sound (told ++ [.took i r.number]) rest count (drains.set i ⟨.taken r, d.failed⟩) := by
  have hst := h.stands i d hi
  refine ⟨⟨hst.looking hd, h.latest⟩, ?_⟩
  -- what nobody has taken nobody has begun
  refine h.tell _ (lt_of_drain hi) rfl ?_ (fun _ _ _ _ _ _ => List.not_mem_nil) (List.subset_cons_self _ _) rfl nofun
  exact hst.took (h.named r List.mem_cons_self) (h.not_mem_invoked h.latest.2.1)

/-- A call that looks and finds nothing returns. -/
theorem returns (h : Sound told [] count drains) (hi : drains[i]? = some d) (hd : d.stage = .looking) :
    Proper told (.returned i d.failed) ∧
      Sound (told ++ [.returned i d.failed]) [] count (drains.set i ⟨.returned, d.failed⟩) := by
  have hst := h.stands i d hi
  refine ⟨⟨hst.looking hd, hst.failed, fun n hn => ?_⟩, ?_⟩
  · by_contra hnot
    cases h.mem_register_iff.2 ⟨hn, hnot⟩
  · exact h.tell _ (lt_of_drain hi) rfl hst.found_nothing (fun _ _ _ _ _ _ => List.not_mem_nil)
      (List.Subset.refl _) rfl nofun

/-- A call that has taken something begins its release. -/
theorem invokes (h : Sound told register count drains) {r : Held} (hi : drains[i]? = some d)
    (hd : d.stage = .taken r) (since begun : Nat) :
    Proper told (.invoked i r.number r.name r.release) ∧
      Sound (told ++ [.invoked i r.number r.name r.release]) register count
        (drains.set i ⟨.releasing r.number r.name r.release since begun, d.failed⟩) := by
  have hst := h.stands i d hi
  obtain ⟨hlast, hname, hfresh⟩ := hst.taken r hd
  have htook := mem_of_lastOf hlast
  refine ⟨⟨hlast, hname, hfresh⟩, ?_⟩
  refine h.tell _ (lt_of_drain hi) rfl hst.invoked ?_ (List.Subset.refl _) rfl ?_
  · -- whoever else has taken something has taken something else
    intro j d' r' hj hne hr' hmem
    have htook' := mem_of_lastOf ((h.stands j d' hj).taken r' hr').1
    rw [show r'.number = r.number from List.mem_singleton.1 hmem] at htook'
    exact hne (drain_eq_of_took h.nodup_taken htook' htook)
  · intro n name release heq
    injection heq with _ hn
    rw [← hn]
    exact htook

/-- A release comes to its end. -/
theorem ends (h : Sound told register count drains) {n : Nat} {name : String} {left : Script} {since begun : Nat}
    (hi : drains[i]? = some d) (hd : d.stage = .releasing n name left since begun) (e : ReleaseEnd) :
    Proper told (.ended i n name e) ∧
      Sound (told ++ [.ended i n name e]) register count
        (drains.set i ⟨e.stage, d.failed + if e.isCounted then 1 else 0⟩) := by
  have hst := h.stands i d hi
  refine ⟨hst.releasing n name left since begun hd, ?_⟩
  exact h.tell _ (lt_of_drain hi) rfl (hst.ended n name e) (fun _ _ _ _ _ _ => List.not_mem_nil)
    (List.Subset.refl _) rfl nofun

/-- Registering something is always proper. -/
theorem proper_registered (h : Sound told register count drains) (name : String) (release : Script) :
    Proper told (.registered count name release) := by
  rw [Proper, h.numbered, List.length_range]

/-- **One move** tells only what is proper and keeps what has been told and how it stands together. -/
theorem does {s : Shared} {o : Option Happening} (h : Sound told s.register s.count s.drains)
    (hdoes : s.Does o register count drains) :
    (∀ x ∈ o, Proper told x) ∧ Sound (told ++ o.toList) register count drains := by
  have hsilent : ∀ {drains' : List Drain}, Sound told s.register s.count drains' →
      (∀ x ∈ (none : Option Happening), Proper told x) ∧
        Sound (told ++ (none : Option Happening).toList) s.register s.count drains' := by
    intro drains' h'
    rw [Option.toList_none, List.append_nil]
    exact ⟨nofun, h'⟩
  have htold : ∀ {x : Happening} {register' : List Held} {count' : Nat} {drains' : List Drain},
      Proper told x ∧ Sound (told ++ [x]) register' count' drains' →
      (∀ y ∈ some x, Proper told y) ∧ Sound (told ++ (some x).toList) register' count' drains' := by
    rintro x register' count' drains' ⟨hx, h'⟩
    exact ⟨fun y hy => Option.some.inj hy ▸ hx, h'⟩
  cases hdoes with
  | nothing => exact hsilent h
  | call => exact hsilent h.call
  | register name release => exact htold ⟨h.proper_registered name release, h.put name release⟩
  | takes hi hd hs => exact htold ((hs ▸ h).takes hi hd)
  | returns hi hd hs =>
    rw [hs] at h ⊢
    exact htold (h.returns hi hd)
  | invokes hi hd since begun => exact htold (h.invokes hi hd since begun)
  | goesOn hi hd left' since' =>
    exact hsilent (h.seat_silent _ fun _ => (h.stands _ _ hi).goesOn hd left' since')
  | registers hi hd left' since' other release =>
    -- as if somebody registered it, and then the call moved
    have hput := h.put other release
    refine htold ⟨h.proper_registered other release, ?_⟩
    exact hput.seat_silent _ fun _ => (hput.stands _ _ hi).goesOn hd left' since'
  | ends hi hd e => exact htold (h.ends hi hd e)

end Sound

/-- What comes of letting a call go on, given what has been told: a free one takes something if anything is left
that nobody has taken, and returns with its count otherwise; and what a call has taken it releases next. -/
structure GoesOn (told : List Happening) (s : Shared) : Prop where
  takes : ∀ i < s.drains.length, Free i told → ∀ m ∈ registered told, m ∉ taken told →
    ∃ n, m ≤ n ∧ (s.step (.go i)).1 = some (.took i n)
  returns : ∀ i < s.drains.length, Free i told → (∀ n ∈ registered told, n ∈ taken told) →
    (s.step (.go i)).1 = some (.returned i (failures i told))
  invokes : ∀ i n, lastOf i told = some (.took i n) →
    ∃ name release, .registered n name release ∈ told ∧ (s.step (.go i)).1 = some (.invoked i n name release)

/-- **Calls go on**: a shared scope that stands as it should lets every call do what is its turn. -/
theorem Sound.goes_on {s : Shared} (h : Sound told s.register s.count s.drains) : GoesOn told s where
  takes := by
    intro i hi hfree m hm hnot
    have hget := List.getElem?_eq_getElem hi
    have hlooking := (h.stands i _ hget).looking_of_free hfree
    have hmem := h.mem_register_iff.2 ⟨hm, hnot⟩
    cases hs : s.register with
    | nil =>
      rw [hs] at hmem
      cases hmem
    | cons r rest =>
      rw [hs] at h
      refine ⟨r.number, h.latest.2.2 m hm hnot, ?_⟩
      simp [step, move, hget, goOn, hlooking, hs]
  returns := by
    intro i hi hfree hall
    have hget := List.getElem?_eq_getElem hi
    have hst := h.stands i _ hget
    have hlooking := hst.looking_of_free hfree
    cases hs : s.register with
    | nil => simp [step, move, hget, goOn, hlooking, hs, hst.failed]
    | cons r rest =>
      rw [hs] at h
      exact absurd (hall _ h.latest.1) h.latest.2.1
  invokes := by
    intro i n hlast
    have hi : i < s.drains.length := h.known _ (mem_of_lastOf hlast) i rfl
    have hget := List.getElem?_eq_getElem hi
    have hst := h.stands i _ hget
    obtain ⟨r, htaken, rfl⟩ := hst.taken_of_took hlast
    refine ⟨r.name, r.release, (hst.taken r htaken).2.1, ?_⟩
    simp [step, move, hget, goOn, htaken]

/-! ## A whole run -/

/-- Each thing told is proper, given what has been told before it. -/
def Coherent (told : List Happening) : Prop :=
  ∀ before x later, told = before ++ x :: later → Proper before x

/-- What is proper after a coherent story makes it longer and keeps it coherent. -/
theorem Coherent.concat (h : Coherent told) (hx : Proper told x) : Coherent (told ++ [x]) := by
  intro before y later heq
  rcases List.eq_nil_or_concat later with rfl | ⟨later, z, rfl⟩
  · obtain ⟨rfl, hy⟩ := List.append_inj' heq rfl
    obtain rfl := List.singleton_inj.1 hy
    exact hx
  · rw [List.concat_eq_append, ← List.cons_append, ← List.append_assoc] at heq
    exact h before y later (List.append_inj' heq rfl).1

/-- A coherent story was coherent before its last event. -/
theorem Coherent.init (h : Coherent (told ++ [x])) : Coherent told := by
  intro before y later heq
  refine h before y (later ++ [x]) ?_
  rw [heq, List.append_assoc, List.cons_append]

/-- No release is begun twice, as none is begun that has been begun. -/
theorem Coherent.nodup_invoked (h : Coherent told) : (invoked told).Nodup := by
  induction told using List.reverseRecOn with
  | nil => exact List.nodup_nil
  | append_singleton told x ih =>
    have hx : Proper told x := h told x [] rfl
    have hold := ih h.init
    rw [invoked_concat]
    cases x with
    | invoked i n name release =>
      change (invoked told ++ [n]).Nodup
      rw [← List.concat_eq_append, List.nodup_concat]
      exact ⟨hx.2.2, hold⟩
    | _ => exact (List.append_nil (invoked told)).symm ▸ hold

/-- What has happened after some moves, the first first. -/
def story (limit : Nat) (moves : List Move) : List Happening :=
  (Acts.log step { limit := limit } moves).filterMap (·.2)

/-- How it stands after some moves. -/
def after (limit : Nat) (moves : List Move) : Shared := Acts.after step { limit := limit } moves

variable (limit : Nat) (moves : List Move)

/-- A move adds to the story what it tells, if it tells anything. -/
theorem story_concat (m : Move) :
    story limit (moves ++ [m]) = story limit moves ++ ((after limit moves).step m).1.toList := by
  rw [story, Acts.log_concat, List.filterMap_append]
  change _ ++ List.filterMap id [((after limit moves).step m).1] = _
  cases ((after limit moves).step m).1 <;> rfl

/-- The last move is made from where the others have led. -/
theorem after_concat (m : Move) : after limit (moves ++ [m]) = ((after limit moves).step m).2 :=
  Acts.after_concat step _ moves m

/-- However the hands take turns, it stands as it should. -/
theorem sound_after : Sound (story limit moves) (after limit moves).register (after limit moves).count
    (after limit moves).drains := by
  induction moves using List.reverseRecOn with
  | nil => exact ⟨rfl, List.Perm.refl _, List.Pairwise.nil, nofun, nofun, nofun, nofun⟩
  | append_singleton moves m ih =>
    rw [story_concat, after_concat]
    exact (ih.does (does_step _ m)).2

/-- However the hands take turns, only what is proper is told. -/
theorem coherent_story : Coherent (story limit moves) := by
  induction moves using List.reverseRecOn with
  | nil => rintro (_ | _) x later heq <;> cases heq
  | append_singleton moves m ih =>
    have hproper := ((sound_after limit moves).does (does_step _ m)).1
    rw [story_concat]
    cases ho : ((after limit moves).step m).1 with
    | none =>
      rw [Option.toList_none, List.append_nil]
      exact ih
    | some x => exact ih.concat (hproper x ho)

/-- A call that returns leaves nothing registered but what is registered later. -/
theorem names_eq_nil {before later : List Happening} {i k : Nat}
    (hstory : story limit moves = before ++ .returned i k :: later) (hlater : registered later = []) :
    (after limit moves).names = [] := by
  have hall := (coherent_story limit moves before _ later hstory).2.2
  have hsound := sound_after limit moves
  have hreg : registered (story limit moves) = registered before := by
    rw [hstory, registered, List.filterMap_append]
    change _ ++ registered later = _
    rw [hlater, List.append_nil]
    rfl
  -- what was on the register would have been registered before the return, and so have been taken
  have hempty : (after limit moves).register.map (·.number) = [] := by
    rw [List.eq_nil_iff_forall_not_mem]
    intro n hn
    obtain ⟨hmem, hnot⟩ := hsound.mem_register_iff.1 hn
    rw [hreg] at hmem
    obtain ⟨j, hj⟩ := mem_taken.1 (hall n hmem)
    refine hnot (mem_taken.2 ⟨j, ?_⟩)
    rw [hstory]
    exact List.mem_append_left _ hj
  rw [names, List.map_eq_nil_iff.1 hempty]
  rfl

/-- **Every release once, whoever releases.** Whatever turns the hands on a shared scope take, whatever the
releases do and however long they are, numbers are given out in the order of registering, no release is begun
twice, and each is begun by the call that has just taken it off the register, where it had been registered. What
a call takes is, of everything that has been registered and that nobody has taken, the latest, and it takes
nothing while a release of its own is not over. A call that returns has found that everything has been taken, and
its count is that of its own releases that failed or ran out of time; and if nothing is registered after it has
returned, nothing is on the register. And the calls go on: whenever a call that is between two releases is let go
on, it takes something if anything is left that nobody has taken, and what it has taken it releases the next time. -/
theorem releases_begin_once :
    (invoked (story limit moves)).Nodup ∧
    registered (story limit moves) = List.range (after limit moves).count ∧
    GoesOn (story limit moves) (after limit moves) ∧
    ∀ before x later, story limit moves = before ++ x :: later →
      (∀ i n name release, x = .invoked i n name release →
        .registered n name release ∈ before ∧ lastOf i before = some (.took i n)) ∧
      (∀ i n, x = .took i n → Free i before ∧
        n ∈ registered before ∧ n ∉ taken before ∧ ∀ m ∈ registered before, m ∉ taken before → m ≤ n) ∧
      (∀ i n name e, x = .ended i n name e → ∃ release, lastOf i before = some (.invoked i n name release)) ∧
      (∀ i k, x = .returned i k → Free i before ∧ k = failures i before ∧
        (∀ n ∈ registered before, n ∈ taken before) ∧
        (registered later = [] → (after limit moves).names = [])) := by
  have hcoherent := coherent_story limit moves
  have hsound := sound_after limit moves
  refine ⟨hcoherent.nodup_invoked, hsound.numbered, hsound.goes_on, fun before x later hstory => ?_⟩
  have hx := hcoherent before x later hstory
  refine ⟨?_, ?_, ?_, ?_⟩
  · rintro i n name release rfl
    exact ⟨hx.2.1, hx.1⟩
  · rintro i n rfl
    exact hx
  · rintro i n name e rfl
    exact hx
  · rintro i k rfl
    exact ⟨hx.1, hx.2.1, hx.2.2, names_eq_nil limit moves hstory⟩

end Shared

end Phrasebook.Lifecycle
