import ActiveResponse.Detection.ChainRules
import ActiveResponse.Lib.ReadThrough

namespace larp.RiskProcessChainRule

def CACHE_TTL_SECONDS : ℤ := 30

/-- `_get_fallback_rules`. -/
def fallback_rules : List PreparedRule :=
  [{ id := "fallback_office_shell"
     name := "Default Office Spawning Shell (Fallback)"
     action := "alert"
     parent_patterns := ["winword.exe", "word.exe", "excel.exe", "powerpnt.exe", "outlook.exe", "acrord32.exe",
      "acrobat.exe"]
     child_patterns := ["cmd.exe", "cmd", "powershell.exe", "powershell", "pwsh.exe", "wscript.exe", "cscript.exe",
      "bash", "sh"] },
   { id := "fallback_browser_spawning"
     name := "Suspicious Browser Spawning (Fallback)"
     action := "alert"
     parent_patterns := ["electron.exe", "chrome.exe", "msedge.exe", "firefox.exe"]
     child_patterns := ["msbuild.exe", "csc.exe", "vbc.exe", "cmd.exe", "powershell.exe"] }]

/-- The class variables `_cache_rules` and `_cache_timestamp`, with the evaluations that fill them and the calls
that invalidate them. An empty list of rules is not kept. -/
def chain_cache : ReadThrough RuleTables (List PreparedRule) RuleUpdate Time where
  apply := RuleTables.perform
  load := RuleTables.prepared
  cacheable rules := !rules.isEmpty
  fresh stamp now := decide (now - stamp < seconds CACHE_TTL_SECONDS)

/-- What `_get_active_chain_rules` returns: the rules of the cache or the database, or the default rules if there
are none or the query has failed. -/
def active_chain_rules : Option (List PreparedRule) → List PreparedRule
  | some (rule :: rules) => rule :: rules
  | _ => fallback_rules

/-- An evaluation that has not failed to read its rules uses those of a version of the tables that is at least as
new as every update that had returned when the evaluation began. -/
def RulesCurrent (s : ReadThrough.State RuleTables (List PreparedRule) Time)
    (next : ReadThrough.Step RuleUpdate Time) : Prop :=
  ∀ served, (chain_cache.step s next).served = some served → served.value.isSome →
    ∃ version, served.floor ≤ version ∧ version ≤ (chain_cache.step s next).version ∧
      active_chain_rules served.value =
        active_chain_rules (some ((chain_cache.step s next).history version).prepared)

/-- In every run of evaluations and updates in which no evaluation stores rules that it has read before the commit
of an update that has invalidated the cache since, every evaluation uses current rules. -/
theorem rulesCurrent_along_of_settled (tables : RuleTables) (steps : List (ReadThrough.Step RuleUpdate Time))
    (hsettled : transition.Along chain_cache.step chain_cache.settled { history := fun _ => tables } steps) :
    transition.Along chain_cache.step RulesCurrent { history := fun _ => tables } steps := by
  refine (chain_cache.current_along tables steps hsettled).mono fun s next hcurrent served hserved hvalue => ?_
  obtain ⟨rules, hrules⟩ := Option.isSome_iff_exists.mp hvalue
  obtain ⟨version, hfloor, hpast, hloaded⟩ := hcurrent served rules hserved hrules
  refine ⟨version, hfloor, hpast, ?_⟩
  rw [hrules, hloaded]
  rfl

/-- One rule with its two groups. -/
def office_tables : RuleTables where
  process_groups := ⟨[{ id := "office", name := "Office", patterns := ["winword.exe"], description := none },
    { id := "shells", name := "Shells", patterns := ["cmd.exe"], description := none }], by decide⟩
  process_chain_rules := ⟨[{ id := "rule-1", name := "Office spawning shell", parent_group_id := "office"
                             child_group_id := "shells", action := "alert", is_active := true }], by decide⟩
  unique_names := by decide
  foreign_keys := by decide

/-- `PUT` of the action `isolate`. -/
def isolate_update : RuleUpdate where
  call := .update_rule "rule-1" { action := some "isolate" }
  view := office_tables

/-- An evaluation before the update, one after it, and one from the cache. -/
theorem rulesCurrent_around_update :
    transition.Along chain_cache.step RulesCurrent { history := fun _ => office_tables }
      [.begin 0 0, .load 0, .finish 0, .commit 1 isolate_update, .clear 1, .complete 1, .begin 2 1, .load 2,
        .finish 2, .begin 3 2] := by
  refine rulesCurrent_along_of_settled office_tables _
    ⟨trivial, trivial, ?_, trivial, trivial, trivial, trivial, trivial, ?_, trivial, trivial⟩
  · intro _ _ _ _ _
    exact Nat.zero_le _
  · intro _ _ hr hloaded _
    cases hr
    cases hloaded
    exact le_refl 1

/-- An evaluation reads the rules, an update commits, invalidates the cache and returns, and the evaluation stores
what it has read: a second later the old action is used. -/
theorem not_rulesCurrent_late_store :
    ¬ transition.Along chain_cache.step RulesCurrent { history := fun _ => office_tables }
      [.begin 0 0, .load 0, .commit 1 isolate_update, .clear 1, .complete 1, .finish 0, .begin 2 (seconds 1)] := by
  intro h
  obtain ⟨version, hfloor, hpast, hrules⟩ := h.2.2.2.2.2.2.1 _ rfl rfl
  have hfloor : 1 ≤ version := hfloor
  have hpast : version ≤ 1 := hpast
  obtain rfl : version = 1 := le_antisymm hpast hfloor
  exact absurd hrules (by decide +kernel)

end larp.RiskProcessChainRule
