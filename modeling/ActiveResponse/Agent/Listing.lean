import ActiveResponse.Lib.BestOf
import ActiveResponse.Models.Agent
import Mathlib.Data.Prod.Lex

namespace larp

/-- `items[start:stop]`. A negative index counts from the end. -/
def py_slice {A : Type} (items : List A) (start stop : ℤ) : List A :=
  (items.take (index stop)).drop (index start)
where
  index (i : ℤ) : ℕ := (if 0 ≤ i then i else items.length + i).toNat

/-- A page that begins at 0 is a prefix. -/
theorem py_slice_zero {A : Type} (items : List A) (stop : ℕ) : py_slice items 0 stop = items.take stop := by
  simp [py_slice, py_slice.index]

namespace Agent

/-- `a.hostname or a.id`. -/
def key (self : Agent) : String := if self.hostname = "" then self.id else self.hostname

def is_active (self : Agent) : Bool := py_lower self.status.value ∈ ["active", "online"]

/-- Active agents come before inactive ones, and then those that have been seen later. -/
def rank (self : Agent) : Bool ×ₗ Time := toLex (self.is_active, self.last_seen)

end Agent

/-- `SELECT ... OFFSET skip LIMIT limit`. What a negative number does is up to the database. -/
def AgentRepository.list (negative_page : List Agent → ℤ → ℤ → Except AppException (List Agent))
    (rows : List Agent) (skip limit : ℤ) : Except AppException (List Agent) :=
  if 0 ≤ skip ∧ 0 ≤ limit then .ok ((rows.drop skip.toNat).take limit.toNat) else negative_page rows skip limit

namespace AgentService

/-- The body of the loop over the agents. -/
def keep_latest (latest_by_hostname : List (String × Agent)) (a : Agent) : List (String × Agent) :=
  match Assoc.view latest_by_hostname a.key with
  | none => Assoc.set latest_by_hostname a.key a
  | some existing =>
    if a.is_active ∧ ¬existing.is_active then Assoc.set latest_by_hostname a.key a
    else if ¬a.is_active ∧ existing.is_active then latest_by_hostname
    else if existing.last_seen < a.last_seen then Assoc.set latest_by_hostname a.key a
    else latest_by_hostname

/-- The agents of the dictionary, sorted with `reverse=True`. -/
def deduped (agents : List Agent) : List Agent :=
  BestOf.descending (fun x => toLex ((if x.is_active then 1 else 0 : ℤ), x.last_seen))
    ((agents.foldl keep_latest []).map Prod.snd)

def list_agents (negative_page : List Agent → ℤ → ℤ → Except AppException (List Agent)) (rows : List Agent)
    (skip : ℤ := 0) (limit : ℤ := 100) (deduplicate : Bool := true) : Except AppException (List Agent) := do
  if !deduplicate then
    return ← AgentRepository.list negative_page rows skip limit
  let agents ← AgentRepository.list negative_page rows 0 10000
  return py_slice (deduped agents) skip (skip + limit)

/-- The law of the list of agents: one for each key, a greatest one of it, and the greatest first. -/
structure Deduplicates (agents listing : List Agent) : Prop where
  best : BestOf.IsBest Agent.key Agent.rank agents listing
  sorted : listing.Pairwise fun a b => b.rank ≤ a.rank

/-- The lists have the same ranks at the same places, and the same rank for every key. -/
def SameUpToTies (listing listing' : List Agent) : Prop :=
  listing.map Agent.rank = listing'.map Agent.rank ∧
    (listing.map fun a => (a.key, a.rank)).Perm (listing'.map fun a => (a.key, a.rank))

/-- The three branches compare the ranks. -/
theorem keep_latest_eq : keep_latest = BestOf.keep Agent.key Agent.rank := by
  funext latest_by_hostname a
  rw [keep_latest, BestOf.keep]
  cases Assoc.view latest_by_hostname a.key with
  | none => rfl
  | some existing =>
    have hrank : existing.rank < a.rank ↔
        existing.is_active < a.is_active ∨ existing.is_active = a.is_active ∧ existing.last_seen < a.last_seen :=
      Prod.Lex.toLex_lt_toLex
    simp only [hrank]
    cases existing.is_active <;> cases a.is_active <;> simp

theorem sort_key_le {a b : Agent} :
    toLex ((if b.is_active then 1 else 0 : ℤ), b.last_seen) ≤ toLex ((if a.is_active then 1 else 0 : ℤ), a.last_seen) ↔
      b.rank ≤ a.rank := by
  simp only [Agent.rank, Prod.Lex.toLex_le_toLex]
  cases b.is_active <;> cases a.is_active <;> simp

theorem deduped_eq (agents : List Agent) :
    deduped agents = BestOf.descending Agent.rank ((agents.foldl (BestOf.keep Agent.key Agent.rank) []).map Prod.snd) := by
  rw [deduped, keep_latest_eq, BestOf.descending, BestOf.descending]
  simp only [sort_key_le]

theorem deduplicates (agents : List Agent) : Deduplicates agents (deduped agents) := by
  rw [deduped_eq]
  exact ⟨(BestOf.isBest_foldl agents).perm (BestOf.descending_perm _), BestOf.pairwise_descending _⟩

theorem Deduplicates.sameUpToTies {agents others listing listing' : List Agent} (h : Deduplicates agents listing)
    (h' : Deduplicates others listing') (hperm : agents.Perm others) : SameUpToTies listing listing' := by
  have hranks := h.best.ranks_perm h'.best fun _ => hperm.mem_iff
  refine ⟨BestOf.ranks_eq_of_perm h.sorted h'.sorted ?_, hranks⟩
  have hsnd := hranks.map Prod.snd
  rwa [List.map_map, List.map_map] at hsnd

theorem list_agents_eq (negative_page : List Agent → ℤ → ℤ → Except AppException (List Agent)) {agents : List Agent}
    (h : agents.length ≤ 10000) (skip limit : ℤ) :
    list_agents negative_page agents skip limit = .ok (py_slice (deduped agents) skip (skip + limit)) := by
  have hall : AgentRepository.list negative_page agents 0 10000 = .ok agents := by
    rw [AgentRepository.list, if_pos (by decide)]
    exact congrArg Except.ok (List.take_of_length_le h)
  rw [list_agents, hall]
  rfl

/-- The answer is a page of the list of all hosts, which shows for each of them its best agent. In another order of
the rows it is a page of the same list up to ties. -/
theorem list_agents_deduplicates (negative_page : List Agent → ℤ → ℤ → Except AppException (List Agent))
    {agents : List Agent} (h : agents.length ≤ 10000) :
    ∃ listing, Deduplicates agents listing ∧
      (∀ skip limit, list_agents negative_page agents skip limit = .ok (py_slice listing skip (skip + limit))) ∧
      ∀ others : List Agent, others.Perm agents → ∃ listing', SameUpToTies listing' listing ∧
        ∀ skip limit, list_agents negative_page others skip limit = .ok (py_slice listing' skip (skip + limit)) := by
  refine ⟨deduped agents, deduplicates agents, list_agents_eq negative_page h, fun others hperm => ?_⟩
  refine ⟨deduped others, (deduplicates others).sameUpToTies (deduplicates agents) hperm, ?_⟩
  exact list_agents_eq negative_page (hperm.length_eq.le.trans h)

/-- A host that has been registered twice, and a newer agent without a host name. -/
def twice_registered : List Agent :=
  [{ id := "a-1", hostname := "web", ip_address := "", mac_address := "", status := .DEAD, last_seen := 9 },
    { id := "a-2", hostname := "web", ip_address := "", mac_address := "", last_seen := 3 },
    { id := "a-3", hostname := "", ip_address := "", mac_address := "", last_seen := 5 }]

theorem list_agents_twice_registered :
    (∃ listing, Deduplicates twice_registered listing ∧
      (∀ skip limit, list_agents (fun rows _ _ => .ok rows) twice_registered skip limit =
        .ok (py_slice listing skip (skip + limit))) ∧
      ∀ others : List Agent, others.Perm twice_registered → ∃ listing', SameUpToTies listing' listing ∧
        ∀ skip limit, list_agents (fun rows _ _ => .ok rows) others skip limit =
          .ok (py_slice listing' skip (skip + limit))) ∧
      (deduped twice_registered).map Agent.id = ["a-3", "a-2"] :=
  ⟨list_agents_deduplicates _ (by decide), by decide +kernel⟩

/-- The agents of 101 hosts, each with the name of its host as its id. -/
def crowd : List Agent :=
  (List.range 101).map fun n =>
    { id := String.ofList (List.replicate (n + 1) 'h'), hostname := String.ofList (List.replicate (n + 1) 'h')
      ip_address := "", mac_address := "", last_seen := 0 }

theorem nodup_keys_crowd : (crowd.map Agent.key).Nodup := by
  refine List.Nodup.of_map String.length ?_
  have hlengths : (crowd.map Agent.key).map String.length = (List.range 101).map (· + 1) := by
    rw [crowd, List.map_map, List.map_map]
    refine List.map_congr_left fun n _ => ?_
    have hname : String.ofList (List.replicate (n + 1) 'h') ≠ "" := fun h => by simpa using congrArg String.length h
    simp [Agent.key, hname]
  rw [hlengths]
  exact List.nodup_range.map (add_left_injective 1)

/-- The page of 100 agents that is the default leaves a host out. -/
theorem not_deduplicates_crowd : crowd.length ≤ 10000 ∧
    ∃ answer, list_agents (fun rows _ _ => .ok rows) crowd = .ok answer ∧ ¬Deduplicates crowd answer := by
  have hlength : crowd.length = 101 := by simp [crowd]
  refine ⟨by omega, _, list_agents_eq _ (by omega) 0 100, fun h => ?_⟩
  have hsubset : crowd.map Agent.key ⊆ (py_slice (deduped crowd) 0 (0 + 100)).map Agent.key := by
    intro key hkey
    obtain ⟨a, ha, rfl⟩ := List.mem_map.mp hkey
    exact h.best.covers a ha
  have hle := (List.subperm_of_subset nodup_keys_crowd hsubset).length_le
  have hpage : py_slice (deduped crowd) 0 (0 + 100) = (deduped crowd).take 100 := py_slice_zero _ 100
  rw [hpage, List.length_map, List.length_map, List.length_take, hlength] at hle
  omega

end AgentService

end larp
