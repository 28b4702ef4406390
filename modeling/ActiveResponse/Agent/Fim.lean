import ActiveResponse.Core.Values
import ActiveResponse.Lib.Assoc
import Mathlib.Data.List.Dedup
import Mathlib.Data.List.Sort

namespace larp

/-- What the monitor finds under a path: nothing, something that it cannot hash, or a file with its hash. -/
inductive FileState where
  | absent
  | unreadable
  | readable (hash : String)
deriving DecidableEq

/-- The file system during a scan: what is under each path, and the files that `os.walk` lists under the watched
directories. -/
structure FileSnapshot where
  state : String → FileState
  walked : List String := []

inductive FimAction where
  | DELETED
  | MODIFIED
  | CREATED
deriving DecidableEq

structure FimAlert where
  agent_id : String
  file_path : String
  old_hash : String
  new_hash : String
  action : FimAction
  yara_matches : Option (List String) := none
  timestamp : Time
deriving DecidableEq

/-- The hashes that a receiver of the alerts knows. -/
abbrev KnownHashes := String → Option String

/-- What an alert changes in the known hashes. -/
def FimAlert.apply (known : KnownHashes) (alert : FimAlert) : KnownHashes :=
  Function.update known alert.file_path
    (match alert.action with
      | .DELETED => none
      | .MODIFIED | .CREATED => some alert.new_hash)

structure FileIntegrityMonitor where
  agent_id : String := "agent"
  watched_files : List String := ["/etc/passwd", "/etc/shadow", "/etc/hosts"]
  file_hashes : List (String × String) := []
  initialized : Bool := false

/-- The cache and the alerts during a scan. -/
structure FimScan where
  file_hashes : List (String × String)
  alerts : List FimAlert := []

namespace FileIntegrityMonitor

def calculate_sha256 (snapshot : FileSnapshot) (filepath : String) : Option String :=
  match snapshot.state filepath with
  | .readable hash => some hash
  | .absent | .unreadable => none

/-- `get_all_target_files`, before it is sorted. -/
def get_all_target_files (self : FileIntegrityMonitor) (snapshot : FileSnapshot) : List String :=
  (self.watched_files ++ snapshot.walked).dedup

/-- A round of `initialize_baseline`. -/
def hash_target (snapshot : FileSnapshot) (file_hashes : List (String × String)) (filepath : String) :
    List (String × String) :=
  match calculate_sha256 snapshot filepath with
  | some h => Assoc.set file_hashes filepath h
  | none => file_hashes

def initialize_baseline (self : FileIntegrityMonitor) (snapshot : FileSnapshot) : FileIntegrityMonitor :=
  { self with
    file_hashes := ((self.get_all_target_files snapshot).insertionSort (· ≤ ·)).foldl (hash_target snapshot) self.file_hashes
    initialized := true }

variable (yara : String → List String) (now : Time) (snapshot : FileSnapshot)

/-- A round of the first loop of `check_integrity`. -/
def check_cached (self : FileIntegrityMonitor) (scan : FimScan) (entry : String × String) : FimScan :=
  let (filepath, old_hash) := entry
  match snapshot.state filepath with
  | .absent =>
    { file_hashes := Assoc.erase scan.file_hashes filepath
      alerts := scan.alerts ++ [{
        agent_id := self.agent_id, file_path := filepath, old_hash, new_hash := "", action := .DELETED
        timestamp := now }] }
  | .unreadable => scan
  | .readable curr_hash =>
    if curr_hash = old_hash then scan
    else
      { file_hashes := Assoc.set scan.file_hashes filepath curr_hash
        alerts := scan.alerts ++ [{
          agent_id := self.agent_id, file_path := filepath, old_hash, new_hash := curr_hash, action := .MODIFIED
          yara_matches := some (yara filepath), timestamp := now }] }

/-- A round of the second loop of `check_integrity`. -/
def check_target (self : FileIntegrityMonitor) (scan : FimScan) (filepath : String) : FimScan :=
  match Assoc.view scan.file_hashes filepath, snapshot.state filepath with
  | none, .readable new_hash =>
    { file_hashes := Assoc.set scan.file_hashes filepath new_hash
      alerts := scan.alerts ++ if self.initialized then [{
          agent_id := self.agent_id, file_path := filepath, old_hash := "", new_hash, action := .CREATED
          yara_matches := some (yara filepath), timestamp := now }]
        else [] }
  | _, _ => scan

/-- `check_integrity`. The second loop takes the targets in the order of a set. -/
def check_integrity (set_order : List String → List String) (self : FileIntegrityMonitor) :
    List FimAlert × FileIntegrityMonitor :=
  let current_targets := set_order (self.get_all_target_files snapshot)
  let cached := self.file_hashes.foldl (self.check_cached yara now snapshot) { file_hashes := self.file_hashes }
  let scan := current_targets.foldl (self.check_target yara now snapshot) cached
  (scan.alerts, { self with file_hashes := scan.file_hashes })

/-! ## What a scan does -/

variable {yara now snapshot} {self : FileIntegrityMonitor} {scan : FimScan} {known : KnownHashes}

/-- The cache is what the known hashes become by the alerts. -/
def Applied (known : KnownHashes) (scan : FimScan) : Prop :=
  Assoc.view scan.file_hashes = scan.alerts.foldl FimAlert.apply known

theorem applied_check_cached (h : Applied known scan) (entry : String × String) :
    Applied known (self.check_cached yara now snapshot scan entry) := by
  unfold Applied at h ⊢
  unfold check_cached
  dsimp only
  split
  · rw [Assoc.view_erase, List.foldl_append, ← h]
    rfl
  · exact h
  · split
    · exact h
    · rw [Assoc.view_set, List.foldl_append, ← h]
      rfl

theorem applied_check_target (h : Applied known scan) (hinitialized : self.initialized) (filepath : String) :
    Applied known (self.check_target yara now snapshot scan filepath) := by
  unfold Applied at h ⊢
  unfold check_target
  split
  · rw [Assoc.view_set, hinitialized, if_pos rfl, List.foldl_append, ← h]
    rfl
  · exact h

/-- What becomes of a cached hash. -/
def FileState.resolve (old : Option String) : FileState → Option String
  | .absent => none
  | .unreadable => old
  | .readable hash => some hash

theorem view_check_cached {entry : String × String} (hentry : Assoc.view scan.file_hashes entry.1 = some entry.2) :
    Assoc.view (self.check_cached yara now snapshot scan entry).file_hashes =
      Function.update (Assoc.view scan.file_hashes) entry.1
        (FileState.resolve (some entry.2) (snapshot.state entry.1)) := by
  unfold check_cached
  dsimp only
  split
  · rename_i hstate
    rw [Assoc.view_erase, hstate]
    rfl
  · rename_i hstate
    rw [hstate, FileState.resolve, ← hentry, Function.update_eq_self]
  · rename_i hash hstate
    rw [hstate, FileState.resolve]
    split
    · rename_i hsame
      rw [hsame, ← hentry, Function.update_eq_self]
    · rw [Assoc.view_set]

/-- The first loop resolves every cached hash. -/
theorem view_check_all_cached {entries : List (String × String)} (hnodup : (entries.map Prod.fst).Nodup)
    (hentries : ∀ entry ∈ entries, Assoc.view scan.file_hashes entry.1 = some entry.2) (path : String) :
    Assoc.view (entries.foldl (self.check_cached yara now snapshot) scan).file_hashes path =
      if path ∈ entries.map Prod.fst then
        FileState.resolve (Assoc.view scan.file_hashes path) (snapshot.state path)
      else Assoc.view scan.file_hashes path := by
  induction entries generalizing scan with
  | nil => simp
  | cons entry entries ih =>
    rw [List.map_cons, List.nodup_cons] at hnodup
    rw [List.forall_mem_cons] at hentries
    have hview : Assoc.view (self.check_cached yara now snapshot scan entry).file_hashes = _ :=
      view_check_cached hentries.1
    have hne : ∀ other ∈ entries, other.1 ≠ entry.1 := by
      rintro other hother heq
      exact hnodup.1 (heq ▸ List.mem_map_of_mem hother)
    have hrest : ∀ other ∈ entries,
        Assoc.view (self.check_cached yara now snapshot scan entry).file_hashes other.1 = some other.2 := by
      intro other hother
      rw [hview, Function.update_of_ne (hne other hother)]
      exact hentries.2 other hother
    rw [List.foldl_cons, ih hnodup.2 hrest, hview]
    by_cases hpath : path = entry.1
    · subst hpath
      rw [if_neg hnodup.1, Function.update_self, if_pos (by simp), hentries.1]
    · rw [Function.update_of_ne hpath]
      simp only [List.map_cons, List.mem_cons, hpath, false_or]

/-- The second loop adds the targets that are not in the cache. -/
theorem view_check_all_targets (targets : List String) (path : String) :
    Assoc.view (targets.foldl (self.check_target yara now snapshot) scan).file_hashes path =
      if path ∈ targets then (Assoc.view scan.file_hashes path).or (calculate_sha256 snapshot path)
      else Assoc.view scan.file_hashes path := by
  induction targets generalizing scan with
  | nil => simp
  | cons target targets ih =>
    have hview : Assoc.view (self.check_target yara now snapshot scan target).file_hashes =
        Function.update (Assoc.view scan.file_hashes) target
          ((Assoc.view scan.file_hashes target).or (calculate_sha256 snapshot target)) := by
      unfold check_target calculate_sha256
      split
      · rename_i hnone hstate
        rw [Assoc.view_set, hnone, hstate, Option.none_or]
      · rename_i hother
        refine (Function.update_eq_self_iff.mpr ?_).symm
        cases hcached : Assoc.view scan.file_hashes target with
        | some old => rfl
        | none =>
          cases hstate : snapshot.state target with
          | readable hash => exact absurd hstate (hother hash hcached)
          | absent | unreadable => rfl
    rw [List.foldl_cons, ih, hview]
    by_cases hpath : path = target
    · subst hpath
      rw [Function.update_self, if_pos List.mem_cons_self]
      cases Assoc.view scan.file_hashes path <;> cases calculate_sha256 snapshot path <;> simp
    · rw [Function.update_of_ne hpath]
      simp [hpath]

variable {set_order : List String → List String}

/-- The cache after a scan is the cache before with the alerts applied to it. -/
theorem check_integrity_applied (hinitialized : self.initialized) :
    Assoc.view (self.check_integrity yara now snapshot set_order).2.file_hashes =
      (self.check_integrity yara now snapshot set_order).1.foldl FimAlert.apply (Assoc.view self.file_hashes) := by
  have hcached : Applied (Assoc.view self.file_hashes)
      (self.file_hashes.foldl (self.check_cached yara now snapshot) { file_hashes := self.file_hashes }) :=
    List.foldlRecOn (motive := Applied (Assoc.view self.file_hashes)) _ _ rfl
      fun _ hscan entry _ => applied_check_cached hscan entry
  exact List.foldlRecOn (motive := Applied (Assoc.view self.file_hashes)) _ _ hcached
    fun _ hscan filepath _ => applied_check_target hscan hinitialized filepath

/-- The cache after a scan: the hashes of the readable targets and of the readable files that were cached, and the old
hashes of those that cannot be read. -/
theorem view_check_integrity (horder : ∀ targets, (set_order targets).Perm targets)
    (hnodup : (self.file_hashes.map Prod.fst).Nodup) (path : String) :
    Assoc.view (self.check_integrity yara now snapshot set_order).2.file_hashes path =
      match snapshot.state path with
      | .absent => none
      | .unreadable => Assoc.view self.file_hashes path
      | .readable hash =>
        if path ∈ self.get_all_target_files snapshot ∨ path ∈ self.file_hashes.map Prod.fst then some hash else none := by
  have hcached : Assoc.view (self.file_hashes.foldl (self.check_cached yara now snapshot)
      { file_hashes := self.file_hashes }).file_hashes path = _ :=
    view_check_all_cached hnodup (fun entry hentry => Assoc.view_of_mem hnodup hentry) path
  simp only [check_integrity, view_check_all_targets, hcached, (horder _).mem_iff]
  by_cases hmem : path ∈ self.file_hashes.map Prod.fst
  · rw [if_pos hmem]
    cases hstate : snapshot.state path with
    | absent => simp [FileState.resolve, calculate_sha256, hstate]
    | unreadable => simp [FileState.resolve, calculate_sha256, hstate]
    | readable hash => simp [FileState.resolve, hmem]
  · rw [if_neg hmem, Assoc.view_eq_none_iff.mpr hmem]
    cases hstate : snapshot.state path with
    | absent | unreadable => simp [calculate_sha256, hstate]
    | readable hash => simp [calculate_sha256, hstate, hmem]

/-! ## The keys of the cache -/

theorem nodup_check_cached (h : (scan.file_hashes.map Prod.fst).Nodup) (entry : String × String) :
    ((self.check_cached yara now snapshot scan entry).file_hashes.map Prod.fst).Nodup := by
  unfold check_cached
  dsimp only
  split
  · exact Assoc.nodup_erase h _
  · exact h
  · split
    · exact h
    · exact Assoc.nodup_set h _ _

theorem nodup_check_target (h : (scan.file_hashes.map Prod.fst).Nodup) (filepath : String) :
    ((self.check_target yara now snapshot scan filepath).file_hashes.map Prod.fst).Nodup := by
  unfold check_target
  split
  · exact Assoc.nodup_set h _ _
  · exact h

theorem nodup_check_integrity (h : (self.file_hashes.map Prod.fst).Nodup) :
    ((self.check_integrity yara now snapshot set_order).2.file_hashes.map Prod.fst).Nodup := by
  have hcached : ((self.file_hashes.foldl (self.check_cached yara now snapshot)
      { file_hashes := self.file_hashes }).file_hashes.map Prod.fst).Nodup :=
    List.foldlRecOn (motive := fun scan : FimScan => (scan.file_hashes.map Prod.fst).Nodup) _ _ h
      fun _ hscan entry _ => nodup_check_cached hscan entry
  exact List.foldlRecOn (motive := fun scan : FimScan => (scan.file_hashes.map Prod.fst).Nodup) _ _ hcached
    fun _ hscan filepath _ => nodup_check_target hscan filepath

theorem nodup_initialize_baseline (h : (self.file_hashes.map Prod.fst).Nodup) :
    ((self.initialize_baseline snapshot).file_hashes.map Prod.fst).Nodup := by
  refine List.foldlRecOn (motive := fun file_hashes : List (String × String) => (file_hashes.map Prod.fst).Nodup) _ _ h ?_
  intro file_hashes hnodup filepath _
  unfold hash_target
  split
  · exact Assoc.nodup_set hnodup _ _
  · exact hnodup

end FileIntegrityMonitor

end larp
