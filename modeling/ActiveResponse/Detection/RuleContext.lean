import ActiveResponse.Detection.ProcessChain
import ActiveResponse.Detection.ScoreRange

namespace larp

/-- What the rules use besides the telemetry: functions of the standard library, the environment, and what the
services of the context answer. -/
structure RuleContext where
  agent_id : String
  /-- `str(value)` of what is no text. -/
  py_str : Json → String
  /-- `text.lower()`. -/
  lower : String → String
  /-- `re.search(pattern, text, re.IGNORECASE)`. -/
  re_search : String → String → Bool
  /-- `datetime.fromisoformat(text)`, if it accepts the text, and whether the text has an offset. -/
  fromisoformat : String → Option (Time × Bool)
  sqrt : ℚ → ℚ
  log2 : ℚ → ℚ
  /-- `_get_ignored_ips()`. -/
  ignored_ips : List String
  /-- `ML_ANOMALY_RULE_ENABLED` and `ML_ANOMALY_RULE_LOG_ONLY`. -/
  ml_enabled : Bool := true
  ml_log_only : Bool := false
  /-- Whether the whitelist has the process name or the path. -/
  is_whitelisted : String → String → Except AppException Bool
  /-- Whether threat intelligence calls the hash or the address malicious. -/
  check_hash : Json → Except AppException Bool
  check_ip : Json → Except AppException Bool
  get_file_changes_thresholds : Except AppException Dict
  /-- `_get_active_chain_rules`. -/
  active_chain_rules : List PreparedRule
  /-- `is_anomaly` and `risk_points`. -/
  score_telemetry : Json → Dict → Except AppException (Bool × ℚ)

open RiskProcessChainRule (base_name or_else p_dict unhashable)

/-! ## Operations on the values of a message -/

/-- `for item in value`. -/
def Json.items : Json → Except AppException (List Json)
  | .arr values => .ok values
  | .obj entries => .ok (entries.map fun entry => .str entry.1)
  | .str text => .ok (text.toList.map fun c => .str (String.ofList [c]))
  | _ => .error (.TypeError "object is not iterable")

/-- `d.get(key, default)`. -/
def Dict.get_default (self : Dict) (key : String) (default : Json) : Json := (self.get key).getD default

mutual

/-- `a <= b`: numbers, texts and lists are ordered. -/
def Json.py_le : Json → Json → Except AppException Bool
  | .str a, .str b => .ok (a ≤ b)
  | .arr xs, .arr ys => Json.py_le_list xs ys
  | a, b => do
    let p ← a.to_number
    let q ← b.to_number
    return p ≤ q

/-- The first elements that differ decide. -/
def Json.py_le_list : List Json → List Json → Except AppException Bool
  | [], _ => .ok true
  | _ :: _, [] => .ok false
  | x :: xs, y :: ys => if x.py_eq y then Json.py_le_list xs ys else x.py_le y

end

/-- `a > b`. -/
def Json.py_gt (a b : Json) : Except AppException Bool := do
  let le ← a.py_le b
  return !le

/-- `set(items)`. -/
def py_set (items : List Json) : Except AppException (List Json) :=
  if items.any unhashable then .error (.TypeError "unhashable type") else .ok items

/-- `value in elements`, for the elements of a set. -/
def in_set (value : Json) (elements : List Json) : Except AppException Bool :=
  if unhashable value then .error (.TypeError "unhashable type") else .ok (elements.any value.py_eq)

/-- `any(part in text for part in parts)`. -/
def any_contains (text : String) : List Json → Except AppException Bool
  | [] => .ok false
  | .str part :: parts => if contains_text text part then .ok true else any_contains text parts
  | _ :: _ => .error (.TypeError "'in <string>' requires string as left operand")

/-- What a call in a `try` block that passes over every exception answers. -/
def answered (answer : Except AppException Bool) : Bool := answer.toOption.getD false

/-- `sep.join(items)` raises unless every item is a text. -/
def joinable (items : List Json) : Except AppException Unit :=
  if items.all fun item => item matches .str _ then .ok () else .error (.TypeError "expected str instance")

namespace RuleContext

variable (self : RuleContext)

/-- `str(value)`. -/
def text : Json → String
  | .str text => text
  | value => self.py_str value

/-- `str(value).lower()`. -/
def lowered (value : Json) : String := self.lower (self.text value)

/-- `str(d.get(key) or "").lower()`. -/
def field (process : Dict) (key : String) : String := self.lowered (or_else (process.get_default key .null) (.str ""))

/-- The command line of a process, which may be a list of arguments. -/
def cmdline (process : Dict) : String :=
  match or_else (process.get_default "cmdline" .null) (.str "") with
  | .arr values => self.lower (String.intercalate " " (values.map self.text))
  | value => self.lowered value

end RuleContext

end larp
