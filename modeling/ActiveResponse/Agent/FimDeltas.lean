import ActiveResponse.Agent.FimAlerts

namespace larp

/-- A scan: the clock, what yara matches, the file system, and the order in which the set of targets is iterated. -/
structure FimRound where
  yara : String → List String := fun _ => []
  now : Time
  snapshot : FileSnapshot
  set_order : List String → List String := fun targets => targets
  order_perm : ∀ targets, (set_order targets).Perm targets := by exact fun _ => .refl _

/-- The alert is one about the known hashes: it adds a path that is not known, or replaces or removes the hash that
is. -/
def FimAlert.Fits (known : KnownHashes) (alert : FimAlert) : Prop :=
  match alert.action with
  | .DELETED => known alert.file_path = some alert.old_hash
  | .MODIFIED => known alert.file_path = some alert.old_hash ∧ alert.new_hash ≠ alert.old_hash
  | .CREATED => known alert.file_path = none

theorem FimAlert.apply_of_ne {known : KnownHashes} {alert : FimAlert} {path : String} (h : path ≠ alert.file_path) :
    alert.apply known path = known path :=
  Function.update_of_ne h _ _

theorem FimAlert.Fits.congr {known known' : KnownHashes} {alert : FimAlert}
    (h : known' alert.file_path = known alert.file_path) (hfits : alert.Fits known) : alert.Fits known' := by
  unfold FimAlert.Fits at hfits ⊢
  rwa [h]

/-- Alerts about different paths fit one after the other if they fit at the beginning. -/
theorem along_fits {alerts : List FimAlert} {known : KnownHashes} (hfits : ∀ alert ∈ alerts, alert.Fits known)
    (honce : (alerts.map FimAlert.file_path).Nodup) : transition.Along FimAlert.apply (fun k a => a.Fits k) known alerts := by
  induction alerts generalizing known with
  | nil => trivial
  | cons alert alerts ih =>
    rw [List.map_cons, List.nodup_cons] at honce
    refine ⟨hfits alert List.mem_cons_self, ih (fun other hother => ?_) honce.2⟩
    have hne : other.file_path ≠ alert.file_path := fun heq => honce.1 (heq ▸ List.mem_map_of_mem hother)
    exact (hfits other (List.mem_cons_of_mem _ hother)).congr (FimAlert.apply_of_ne hne)

namespace FileIntegrityMonitor

/-- The alerts of a scan. -/
def emitted (self : FileIntegrityMonitor) (round : FimRound) : List FimAlert :=
  (self.check_integrity round.yara round.now round.snapshot round.set_order).1

/-- The monitor after a scan. -/
def scanned (self : FileIntegrityMonitor) (round : FimRound) : FileIntegrityMonitor :=
  (self.check_integrity round.yara round.now round.snapshot round.set_order).2

/-- The law of a scan: its alerts are the change of the cache, one for each path at most, every readable target is in
the cache with its hash, and another scan of the same files emits nothing. -/
structure DeltaLaw (monitor : FileIntegrityMonitor) (round : FimRound) : Prop where
  fits : transition.Along FimAlert.apply (fun known alert => alert.Fits known) (Assoc.view monitor.file_hashes)
    (monitor.emitted round)
  applied : Assoc.view (monitor.scanned round).file_hashes =
    transition.run FimAlert.apply (Assoc.view monitor.file_hashes) (monitor.emitted round)
  once : ((monitor.emitted round).map FimAlert.file_path).Nodup
  current : ∀ path ∈ monitor.get_all_target_files round.snapshot, ∀ hash, round.snapshot.state path = .readable hash →
    Assoc.view (monitor.scanned round).file_hashes path = some hash
  quiet : ∀ again : FimRound, again.snapshot = round.snapshot → (monitor.scanned round).emitted again = []

/-! ## The alerts of a scan -/

section Alerts

variable (self : FileIntegrityMonitor) (round : FimRound)

/-- The alert about a cached hash. -/
def cached_alert (entry : String × String) : Option FimAlert :=
  match round.snapshot.state entry.1 with
  | .absent => some {
      agent_id := self.agent_id, file_path := entry.1, old_hash := entry.2, new_hash := "", action := .DELETED
      timestamp := round.now }
  | .unreadable => none
  | .readable curr_hash =>
    if curr_hash = entry.2 then none
    else some {
      agent_id := self.agent_id, file_path := entry.1, old_hash := entry.2, new_hash := curr_hash, action := .MODIFIED
      yara_matches := some (round.yara entry.1), timestamp := round.now }

/-- The alert about a target that is not in the cache. -/
def target_alert (known : KnownHashes) (filepath : String) : Option FimAlert :=
  match known filepath, round.snapshot.state filepath with
  | none, .readable new_hash => some {
      agent_id := self.agent_id, file_path := filepath, old_hash := "", new_hash, action := .CREATED
      yara_matches := some (round.yara filepath), timestamp := round.now }
  | _, _ => none

variable {self round} {scan : FimScan}

theorem alerts_check_cached (entry : String × String) :
    (self.check_cached round.yara round.now round.snapshot scan entry).alerts =
      scan.alerts ++ (self.cached_alert round entry).toList := by
  unfold check_cached cached_alert
  dsimp only
  cases round.snapshot.state entry.1 with
  | absent => rfl
  | unreadable => exact (List.append_nil _).symm
  | readable curr_hash =>
    dsimp only
    split
    · exact (List.append_nil _).symm
    · rfl

theorem alerts_check_all_cached (entries : List (String × String)) :
    (entries.foldl (self.check_cached round.yara round.now round.snapshot) scan).alerts =
      scan.alerts ++ entries.filterMap (self.cached_alert round) := by
  induction entries generalizing scan with
  | nil => exact (List.append_nil _).symm
  | cons entry entries ih =>
    rw [List.foldl_cons, ih, alerts_check_cached, List.filterMap_cons, List.append_assoc]
    cases self.cached_alert round entry <;> rfl

theorem alerts_check_target (hinitialized : self.initialized) (filepath : String) :
    (self.check_target round.yara round.now round.snapshot scan filepath).alerts =
      scan.alerts ++ (self.target_alert round (Assoc.view scan.file_hashes) filepath).toList := by
  unfold check_target target_alert
  cases Assoc.view scan.file_hashes filepath with
  | some hash => exact (List.append_nil _).symm
  | none =>
    cases round.snapshot.state filepath with
    | absent | unreadable => exact (List.append_nil _).symm
    | readable new_hash =>
      dsimp only
      rw [if_pos hinitialized]
      rfl

theorem view_check_target_of_ne {filepath path : String} (h : path ≠ filepath) :
    Assoc.view (self.check_target round.yara round.now round.snapshot scan filepath).file_hashes path =
      Assoc.view scan.file_hashes path := by
  unfold check_target
  split
  · rw [Assoc.view_set, Function.update_of_ne h]
  · rfl

theorem target_alert_congr {known known' : KnownHashes} {path : String} (h : known path = known' path) :
    self.target_alert round known path = self.target_alert round known' path := by
  rw [target_alert, target_alert, h]

theorem alerts_check_all_targets (hinitialized : self.initialized) {targets : List String} (hnodup : targets.Nodup) :
    (targets.foldl (self.check_target round.yara round.now round.snapshot) scan).alerts =
      scan.alerts ++ targets.filterMap (self.target_alert round (Assoc.view scan.file_hashes)) := by
  induction targets generalizing scan with
  | nil => exact (List.append_nil _).symm
  | cons target targets ih =>
    rw [List.nodup_cons] at hnodup
    have hrest : targets.filterMap (self.target_alert round (Assoc.view
          (self.check_target round.yara round.now round.snapshot scan target).file_hashes)) =
        targets.filterMap (self.target_alert round (Assoc.view scan.file_hashes)) := by
      refine List.filterMap_congr fun path hpath => target_alert_congr (view_check_target_of_ne ?_)
      exact fun heq => hnodup.1 (heq ▸ hpath)
    rw [List.foldl_cons, ih hnodup.2, alerts_check_target hinitialized, hrest, List.filterMap_cons, List.append_assoc]
    cases self.target_alert round (Assoc.view scan.file_hashes) target <;> rfl

theorem target_alert_of_not_readable {known : KnownHashes} {path : String}
    (h : ∀ hash, round.snapshot.state path ≠ .readable hash) : self.target_alert round known path = none := by
  unfold target_alert
  split
  · rename_i hash _ hstate
    exact absurd hstate (h hash)
  · rfl

/-- Both loops speak of the cache as it was before the scan: what the first one removes is no readable target. -/
theorem emitted_eq (hinitialized : self.initialized) (hnodup : (self.file_hashes.map Prod.fst).Nodup) :
    self.emitted round = self.file_hashes.filterMap (self.cached_alert round) ++
      (round.set_order (self.get_all_target_files round.snapshot)).filterMap
        (self.target_alert round (Assoc.view self.file_hashes)) := by
  have htargets : (round.set_order (self.get_all_target_files round.snapshot)).Nodup :=
    (round.order_perm _).nodup_iff.mpr (List.nodup_dedup _)
  unfold emitted check_integrity
  dsimp only
  rw [alerts_check_all_targets hinitialized htargets, alerts_check_all_cached, List.nil_append]
  congr 1
  refine List.filterMap_congr fun path _ => ?_
  have hview : Assoc.view (self.file_hashes.foldl (self.check_cached round.yara round.now round.snapshot)
      { file_hashes := self.file_hashes }).file_hashes path = _ :=
    view_check_all_cached hnodup (fun entry hentry => Assoc.view_of_mem hnodup hentry) path
  cases hstate : round.snapshot.state path with
  | absent | unreadable =>
    rw [target_alert_of_not_readable (by simp [hstate]), target_alert_of_not_readable (by simp [hstate])]
  | readable hash =>
    by_cases hcached : path ∈ self.file_hashes.map Prod.fst
    · obtain ⟨entry, hentry, rfl⟩ := List.mem_map.mp hcached
      rw [if_pos hcached, hstate, FileState.resolve] at hview
      rw [target_alert, target_alert, hview, Assoc.view_of_mem hnodup hentry]
    · rw [if_neg hcached] at hview
      exact target_alert_congr hview

theorem cached_alert_eq_some {entry : String × String} {alert : FimAlert}
    (h : self.cached_alert round entry = some alert) :
    alert.file_path = entry.1 ∧ alert.old_hash = entry.2 ∧
      (alert.action = .DELETED ∨ (alert.action = .MODIFIED ∧ alert.new_hash ≠ alert.old_hash)) := by
  unfold cached_alert at h
  split at h
  · cases h
    exact ⟨rfl, rfl, .inl rfl⟩
  · cases h
  · split at h
    · cases h
    · rename_i hne
      cases h
      exact ⟨rfl, rfl, .inr ⟨rfl, hne⟩⟩

theorem target_alert_eq_some {known : KnownHashes} {path : String} {alert : FimAlert}
    (h : self.target_alert round known path = some alert) :
    alert.file_path = path ∧ alert.action = .CREATED ∧ known path = none := by
  unfold target_alert at h
  split at h
  · rename_i hnone _
    cases h
    exact ⟨rfl, rfl, hnone⟩
  · cases h

/-- The paths of the elements that are kept are among the keys of all elements, in their order. -/
theorem map_filterMap_sublist {E A K : Type} {f : E → Option A} {key : E → K} {path : A → K}
    (h : ∀ e a, f e = some a → path a = key e) (l : List E) : ((l.filterMap f).map path).Sublist (l.map key) := by
  induction l with
  | nil => exact .slnil
  | cons e l ih =>
    rw [List.filterMap_cons]
    cases hf : f e with
    | none => exact ih.cons _
    | some a =>
      rw [List.map_cons, List.map_cons, h e a hf]
      exact ih.cons_cons _

/-- An alert of a scan fits the cache before it. -/
theorem fits_of_mem_emitted (hinitialized : self.initialized) (hnodup : (self.file_hashes.map Prod.fst).Nodup)
    {alert : FimAlert} (halert : alert ∈ self.emitted round) : alert.Fits (Assoc.view self.file_hashes) := by
  rw [emitted_eq hinitialized hnodup, List.mem_append] at halert
  unfold FimAlert.Fits
  obtain halert | halert := halert
  · obtain ⟨entry, hentry, hsome⟩ := List.mem_filterMap.mp halert
    have hview := Assoc.view_of_mem hnodup hentry
    obtain ⟨hpath, hold, haction | ⟨haction, hnew⟩⟩ := cached_alert_eq_some hsome
    · rw [haction, hpath, hold]
      exact hview
    · rw [haction, hpath, hold]
      exact ⟨hview, hold ▸ hnew⟩
  · obtain ⟨path, -, hsome⟩ := List.mem_filterMap.mp halert
    obtain ⟨hpath, haction, hnone⟩ := target_alert_eq_some hsome
    rw [haction, hpath]
    exact hnone

/-- The paths of the first loop are cached, and those of the second are not. -/
theorem nodup_emitted (hinitialized : self.initialized) (hnodup : (self.file_hashes.map Prod.fst).Nodup) :
    ((self.emitted round).map FimAlert.file_path).Nodup := by
  have hcached : ((self.file_hashes.filterMap (self.cached_alert round)).map FimAlert.file_path).Sublist
      (self.file_hashes.map Prod.fst) :=
    map_filterMap_sublist (fun _ _ hsome => (cached_alert_eq_some hsome).1) _
  have htargets : (((round.set_order (self.get_all_target_files round.snapshot)).filterMap
      (self.target_alert round (Assoc.view self.file_hashes))).map FimAlert.file_path).Sublist
      ((round.set_order (self.get_all_target_files round.snapshot)).map id) :=
    map_filterMap_sublist (fun _ _ hsome => (target_alert_eq_some hsome).1) _
  rw [List.map_id] at htargets
  rw [emitted_eq hinitialized hnodup, List.map_append, List.nodup_append]
  refine ⟨hnodup.sublist hcached,
    ((round.order_perm _).nodup_iff.mpr (List.nodup_dedup _)).sublist htargets, ?_⟩
  rintro path hpath other hother rfl
  obtain ⟨alert, halert, rfl⟩ := List.mem_map.mp hother
  obtain ⟨target, -, hsome⟩ := List.mem_filterMap.mp halert
  obtain ⟨htarget, -, hnone⟩ := target_alert_eq_some hsome
  exact Assoc.view_eq_none_iff.mp hnone (htarget ▸ hcached.subset hpath)

/-! ## Files that have not changed -/

/-- A cache that agrees with the files gives no alert. -/
theorem emitted_eq_nil (hinitialized : self.initialized) (hnodup : (self.file_hashes.map Prod.fst).Nodup)
    (hagrees : KnownHashes.Agrees (Assoc.view self.file_hashes) (self.get_all_target_files round.snapshot)
      round.snapshot) : self.emitted round = [] := by
  have hcached : self.file_hashes.filterMap (self.cached_alert round) = [] := by
    refine List.filterMap_eq_nil_iff.mpr fun entry hentry => ?_
    obtain hstate | hstate := hagrees.known entry.1 entry.2 (Assoc.view_of_mem hnodup hentry)
    · rw [cached_alert, hstate]
      exact if_pos rfl
    · rw [cached_alert, hstate]
  have htargets : (round.set_order (self.get_all_target_files round.snapshot)).filterMap
      (self.target_alert round (Assoc.view self.file_hashes)) = [] := by
    refine List.filterMap_eq_nil_iff.mpr fun path hpath => ?_
    have htarget := (round.order_perm _).mem_iff.mp hpath
    cases hstate : round.snapshot.state path with
    | absent | unreadable => exact target_alert_of_not_readable (by simp [hstate])
    | readable hash => rw [target_alert, hagrees.readable path htarget hash hstate]
  rw [emitted_eq hinitialized hnodup, hcached, htargets, List.append_nil]

end Alerts

/-! ## The law -/

/-- What every scan finds and leaves: a baseline has been taken, and no path is twice in the cache. -/
structure Sound (monitor : FileIntegrityMonitor) : Prop where
  initialized : monitor.initialized
  nodup : (monitor.file_hashes.map Prod.fst).Nodup

variable {self : FileIntegrityMonitor} {round : FimRound}

theorem Sound.scanned (h : self.Sound) (round : FimRound) : (self.scanned round).Sound :=
  ⟨h.initialized, nodup_check_integrity h.nodup⟩

/-- A scan of a sound monitor obeys the law. -/
theorem Sound.deltaLaw (h : self.Sound) (round : FimRound) : self.DeltaLaw round where
  fits := along_fits (fun _ halert => fits_of_mem_emitted h.initialized h.nodup halert)
    (nodup_emitted h.initialized h.nodup)
  applied := check_integrity_applied h.initialized
  once := nodup_emitted h.initialized h.nodup
  current := (FimProcess.agrees_check_integrity round.order_perm h.nodup round.now round.snapshot).readable
  quiet again hagain := by
    refine emitted_eq_nil (h.scanned round).initialized (h.scanned round).nodup ?_
    rw [hagain]
    exact FimProcess.agrees_check_integrity round.order_perm h.nodup round.now round.snapshot

/-- A baseline takes the hashes of the readable targets. -/
theorem view_hash_targets (snapshot : FileSnapshot) (targets : List String) (hashes : List (String × String))
    (path : String) : Assoc.view (targets.foldl (hash_target snapshot) hashes) path =
      if path ∈ targets then (calculate_sha256 snapshot path).or (Assoc.view hashes path)
      else Assoc.view hashes path := by
  induction targets generalizing hashes with
  | nil => simp
  | cons target targets ih =>
    have hview : Assoc.view (hash_target snapshot hashes target) =
        Function.update (Assoc.view hashes) target
          ((calculate_sha256 snapshot target).or (Assoc.view hashes target)) := by
      unfold hash_target
      split
      · rename_i hash hsome
        rw [Assoc.view_set, hsome, Option.some_or]
      · rename_i hnone
        rw [hnone, Option.none_or, Function.update_eq_self]
    rw [List.foldl_cons, ih, hview]
    by_cases hpath : path = target
    · subst hpath
      rw [Function.update_self, if_pos List.mem_cons_self]
      cases calculate_sha256 snapshot path <;> simp
    · rw [Function.update_of_ne hpath]
      simp [hpath]

/-- The baseline of a new monitor agrees with the files. -/
theorem agrees_new_monitor (agent_id : String) (watched_files : List String) (snapshot : FileSnapshot) :
    KnownHashes.Agrees (Assoc.view (FimProcess.new_monitor agent_id watched_files snapshot).file_hashes)
      ((FimProcess.new_monitor agent_id watched_files snapshot).get_all_target_files snapshot) snapshot := by
  have hview (path : String) : Assoc.view (FimProcess.new_monitor agent_id watched_files snapshot).file_hashes path =
      if path ∈ (FimProcess.new_monitor agent_id watched_files snapshot).get_all_target_files snapshot then
        calculate_sha256 snapshot path else none := by
    have hbaseline := view_hash_targets snapshot
      ((({ agent_id, watched_files } : FileIntegrityMonitor).get_all_target_files snapshot).insertionSort (· ≤ ·)) [] path
    simp only [List.mem_insertionSort, Assoc.view_nil, Option.or_none] at hbaseline
    exact hbaseline
  constructor
  · intro path hpath hash hstate
    rw [hview, if_pos hpath, calculate_sha256, hstate]
  · intro path hash hknown
    rw [hview, calculate_sha256] at hknown
    split at hknown
    · cases hstate : snapshot.state path with
      | readable current =>
        rw [hstate] at hknown
        cases hknown
        exact .inl rfl
      | absent | unreadable =>
        rw [hstate] at hknown
        cases hknown
    · cases hknown

theorem sound_new_monitor (agent_id : String) (watched_files : List String) (snapshot : FileSnapshot) :
    (FimProcess.new_monitor agent_id watched_files snapshot).Sound :=
  ⟨rfl, nodup_initialize_baseline List.nodup_nil⟩

/-- From every baseline and over every sequence of scans the alerts are the changes of the cache, each path at most
once in a scan, and files that have not changed give none, right after the baseline as after any scan. -/
theorem deltaLaw_run (agent_id : String) (watched_files : List String) (baseline : FileSnapshot)
    (rounds : List FimRound) :
    (∀ round : FimRound, round.snapshot = baseline →
        (FimProcess.new_monitor agent_id watched_files baseline).emitted round = []) ∧
      transition.Along FileIntegrityMonitor.scanned DeltaLaw
        (FimProcess.new_monitor agent_id watched_files baseline) rounds := by
  have hsound := sound_new_monitor agent_id watched_files baseline
  constructor
  · rintro round rfl
    exact emitted_eq_nil hsound.initialized hsound.nodup (agrees_new_monitor agent_id watched_files round.snapshot)
  · exact transition.along_of_preserves (I := Sound) (fun _ round h => Sound.scanned h round)
      (fun _ round h => Sound.deltaLaw h round) hsound rounds

end FileIntegrityMonitor

end larp
