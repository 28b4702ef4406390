import ActiveResponse.Core.Values
import ActiveResponse.Lib.Deque
import ActiveResponse.Lib.Run

namespace larp

/-- A connection as `psutil.net_connections` lists it. -/
structure PsConn where
  laddr : Option (String × ℕ)
  raddr : Option (String × ℕ)
  status : String

/-- `conn_key`. -/
structure ConnKey where
  src_ip : String
  src_port : ℕ
  dst_ip : String
  dst_port : ℕ
deriving DecidableEq

/-- An entry of the history. The timestamp is kept as the instant that its text denotes. -/
structure ConnectionItem extends ConnKey where
  status : String := "ESTABLISHED"
  timestamp : Time

def local_destination (dst_ip : String) : Bool :=
  dst_ip.toList.take 4 = "127.".toList ∨ dst_ip ∈ ["::1", "0.0.0.0"]

namespace PsConn

/-- The addresses of a connection that is established. -/
def established (self : PsConn) : Option ConnKey :=
  if self.status = "ESTABLISHED" then
    self.raddr.map fun (dst_ip, dst_port) =>
      { src_ip := (self.laddr.map Prod.fst).getD "0.0.0.0", src_port := (self.laddr.map Prod.snd).getD 0
        dst_ip, dst_port }
  else none

/-- The entry of a connection that is recorded. -/
def item (now : Time) (self : PsConn) : Option ConnectionItem :=
  (self.established.filter fun key => !local_destination key.dst_ip).map fun key =>
    { toConnKey := key, timestamp := now }

end PsConn

/-- `ConnectionTracker`. The set `seen_connections` is neither read nor written. -/
structure ConnectionTracker where
  max_history : ℕ := 100
  history : List ConnectionItem := []
  seen_connections : List ConnKey := []

namespace ConnectionTracker

/-- `sample_connections`. -/
def sample_connections (self : ConnectionTracker) (now : Time) (conns : List PsConn) :
    List ConnectionItem × ConnectionTracker :=
  let new_samples := conns.filterMap (PsConn.item now)
  (new_samples, { self with history := new_samples.foldl (Deque.push self.max_history) self.history })

/-- A round of the telemetry: the clock and the connections of the host. -/
abbrev Round := Time × List PsConn

def sample (self : ConnectionTracker) (round : Round) : ConnectionTracker :=
  (self.sample_connections round.1 round.2).2

/-- What a round records. -/
def recorded (round : Round) : List ConnectionItem := round.2.filterMap (PsConn.item round.1)

/-- The history is the end of everything that has been recorded. -/
theorem history_run (max_history : ℕ) (rounds : List Round) :
    (transition.run sample { max_history } rounds).history = (rounds.flatMap recorded).rtake max_history ∧
      (transition.run sample { max_history } rounds).max_history = max_history := by
  induction rounds using List.reverseRecOn with
  | nil => simp
  | append_singleton rounds round ih =>
    obtain ⟨hhistory, hmax⟩ := ih
    rw [transition.run_append, transition.run_cons, transition.run_nil, List.flatMap_append]
    refine ⟨?_, hmax⟩
    simp only [sample, sample_connections, hhistory, hmax, Deque.foldl_push]
    simp [recorded]

variable {key : ConnKey}

/-- An entry of a round is the one of a connection that is established in it. -/
theorem mem_recorded {round : Round} {item : ConnectionItem} (h : item ∈ recorded round) :
    ∃ conn ∈ round.2, conn.established = some item.toConnKey := by
  obtain ⟨conn, hconn, hitem⟩ := List.mem_filterMap.mp h
  obtain ⟨other, hother, rfl⟩ := Option.map_eq_some_iff.mp hitem
  exact ⟨conn, hconn, (Option.filter_eq_some_iff.mp hother).1⟩

/-- The entries of a connection. -/
def of_connection (key : ConnKey) (item : ConnectionItem) : Bool := item.toConnKey = key

/-- The connection is established in the round, once. -/
def Persists (key : ConnKey) (round : Round) : Prop := round.2.countP (fun conn => conn.established = some key) = 1

theorem countP_recorded (key : ConnKey) (round : Round) : (recorded round).countP (of_connection key) =
    if local_destination key.dst_ip then 0 else round.2.countP fun conn => conn.established = some key := by
  unfold recorded
  induction round.2 with
  | nil => simp
  | cons conn conns ih =>
    rw [List.filterMap_cons, List.countP_cons]
    cases hconn : conn.established with
    | none => simpa [PsConn.item, hconn] using ih
    | some other =>
      by_cases hlocal : local_destination other.dst_ip
      · have hitem : conn.item round.1 = none := by simp [PsConn.item, hconn, Option.filter, hlocal]
        rw [hitem]
        dsimp only
        rw [ih]
        by_cases hkey : other = key
        · subst hkey
          simp [hlocal]
        · simp [hkey]
      · have hitem : conn.item round.1 = some { toConnKey := other, timestamp := round.1 } := by
          simp [PsConn.item, hconn, Option.filter, hlocal]
        rw [hitem]
        dsimp only
        rw [List.countP_cons, ih]
        by_cases hkey : other = key
        · subst hkey
          simp [of_connection, hlocal]
        · simp [of_connection, hkey]

/-- What a round records behind the entry of the connection. -/
def recorded_after (key : ConnKey) (round : Round) : List ConnectionItem :=
  ((recorded round).dropWhile fun item => !of_connection key item).tail

/-- At most one entry of the connection is in the history: it is never recorded, or it has been sampled once at most,
or a whole history was recorded from its entry in the last round but one to the end of the last. -/
def RecordedOnce (key : ConnKey) (max_history : ℕ) (rounds : List Round) : Prop :=
  local_destination key.dst_ip ∨ rounds.length ≤ 1 ∨ ∃ earlier previous last, rounds = earlier ++ [previous, last] ∧
    max_history ≤ (recorded_after key previous).length + (recorded last).length

theorem split_recorded {round : Round} (hcount : (recorded round).countP (of_connection key) = 1) :
    ∃ before item, of_connection key item ∧ recorded round = before ++ item :: recorded_after key round ∧
      (recorded_after key round).countP (of_connection key) = 0 := by
  have hsplit := List.takeWhile_append_dropWhile (p := fun item => !of_connection key item) (l := recorded round)
  have hbefore : ((recorded round).takeWhile fun item => !of_connection key item).countP (of_connection key) = 0 := by
    refine List.countP_eq_zero.mpr fun item hitem => ?_
    simpa using List.mem_takeWhile_imp hitem
  cases hdrop : (recorded round).dropWhile fun item => !of_connection key item with
  | nil =>
    rw [hdrop, List.append_nil] at hsplit
    rw [hsplit, hcount] at hbefore
    omega
  | cons item rest =>
    have hitem : of_connection key item := by
      have hnonempty : (recorded round).dropWhile (fun item => !of_connection key item) ≠ [] := by simp [hdrop]
      have hhead := List.head_dropWhile_not (fun item => !of_connection key item) hnonempty
      simpa [hdrop] using hhead
    refine ⟨_, item, hitem, by rw [recorded_after, hdrop, List.tail_cons, ← hdrop, hsplit], ?_⟩
    rw [← hsplit, List.countP_append, hbefore, hdrop, List.countP_cons_of_pos hitem] at hcount
    rw [recorded_after, hdrop, List.tail_cons]
    omega

private theorem rounds_cases (rounds : List Round) :
    rounds = [] ∨ (∃ round, rounds = [round]) ∨ ∃ earlier previous last, rounds = earlier ++ [previous, last] := by
  rcases rounds.eq_nil_or_concat' with rfl | ⟨most, last, rfl⟩
  · exact Or.inl rfl
  · rcases most.eq_nil_or_concat' with rfl | ⟨earlier, previous, rfl⟩
    · exact Or.inr (Or.inl ⟨last, rfl⟩)
    · exact Or.inr (Or.inr ⟨earlier, previous, last, by simp⟩)

/-- A connection that is established in every round has at most one entry exactly under that condition. -/
theorem countP_history_le_one_iff (max_history : ℕ) {rounds : List Round} (hpersists : ∀ round ∈ rounds, Persists key round) :
    (transition.run sample { max_history } rounds).history.countP (of_connection key) ≤ 1 ↔
      RecordedOnce key max_history rounds := by
  rw [(history_run max_history rounds).1]
  by_cases hlocal : local_destination key.dst_ip
  · refine iff_of_true ?_ (Or.inl hlocal)
    have hnone : (rounds.flatMap recorded).countP (of_connection key) = 0 := by
      rw [List.countP_flatMap, List.sum_eq_zero]
      intro n hn
      obtain ⟨round, _, rfl⟩ := List.mem_map.mp hn
      simp [countP_recorded, hlocal]
    exact (Deque.countP_rtake_le _ _ _).trans (by omega)
  · have hone : ∀ round ∈ rounds, (recorded round).countP (of_connection key) = 1 := by
      intro round hround
      rw [countP_recorded, if_neg hlocal]
      exact hpersists round hround
    rcases rounds_cases rounds with rfl | ⟨round, rfl⟩ | ⟨earlier, previous, last, rfl⟩
    · exact iff_of_true (by simp [List.rtake]) (Or.inr (Or.inl (by simp)))
    · refine iff_of_true ((Deque.countP_rtake_le _ _ _).trans ?_) (Or.inr (Or.inl (by simp)))
      simp [hone round (by simp)]
    · obtain ⟨before, item, hitem, hprevious, hafter⟩ := split_recorded (hone previous (by simp))
      have hall : (earlier ++ [previous, last]).flatMap recorded =
          (earlier.flatMap recorded ++ before) ++ item :: (recorded_after key previous ++ recorded last) := by
        simp [hprevious]
      have hback : (recorded_after key previous ++ recorded last).countP (of_connection key) = 1 := by
        rw [List.countP_append, hafter, hone last (by simp)]
      rw [hall, Deque.countP_rtake_le_one_iff hitem hback, List.length_append]
      constructor
      · exact fun h => Or.inr (Or.inr ⟨earlier, previous, last, rfl, h⟩)
      · rintro (h | h | ⟨earlier', previous', last', heq, h⟩)
        · exact absurd h hlocal
        · simp at h
        · obtain ⟨-, htail⟩ := List.append_inj' heq rfl
          cases htail
          exact h

end ConnectionTracker

end larp
