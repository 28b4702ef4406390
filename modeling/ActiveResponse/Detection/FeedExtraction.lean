import ActiveResponse.Core.Text
import Mathlib.Data.List.Dedup

namespace larp

/-- `hash_pattern`. -/
def hash_match (part : List Char) : Bool :=
  32 ≤ part.length ∧ part.length ≤ 64 ∧ part.all fun c => c.isDigit ∨ ('a' ≤ c ∧ c ≤ 'f') ∨ ('A' ≤ c ∧ c ≤ 'F')

/-- A label of `domain_pattern` in front of a dot. -/
def domain_label : List Char → Bool
  | [] => false
  | [c] => c.isAlphanum
  | c :: cs => c.isAlphanum ∧ cs.length ≤ 62 ∧ (cs.all fun d => d.isAlphanum ∨ d = '-') ∧
      (cs.getLast?.any Char.isAlphanum)

/-- `domain_pattern`. -/
def domain_match (cs : List Char) : Bool :=
  let labels := cs.splitOn '.'
  2 ≤ labels.length ∧ labels.dropLast.all domain_label ∧
    labels.getLast?.any fun top => 2 ≤ top.length ∧ top.all Char.isAlpha

/-- One to three digits. -/
def octet (cs : List Char) : Option (List Char × List Char) :=
  let digits := (cs.take 3).takeWhile py_isdecimal
  if digits.isEmpty then none else some (digits, cs.drop digits.length)

/-- A dot and the next group of digits. -/
def dot_octet : List Char → Option (List Char × List Char)
  | '.' :: cs => (octet cs).map fun (digits, rest) => ('.' :: digits, rest)
  | _ => none

/-- The address that the pattern of the `ip` feeds matches at the start of a text. -/
def ip_at (cs : List Char) : Option (List Char) := do
  let (first, cs) ← octet cs
  let (second, cs) ← dot_octet cs
  let (third, cs) ← dot_octet cs
  let (fourth, _) ← dot_octet cs
  return first ++ second ++ third ++ fourth

/-- `re.search`: the leftmost match. -/
def search_ip : List Char → Option (List Char)
  | [] => none
  | c :: cs => (ip_at (c :: cs)).or (search_ip cs)

/-- An indicator that the extraction accepts: what kind it is, how it is written in the feed, and the value that is
stored. -/
structure Accepted where
  kind : String
  written : List Char
  value : List Char
deriving DecidableEq

def starts_with (pre : String) (cs : List Char) : Bool := pre.toList.isPrefixOf cs

/-- The lines of a feed that are neither empty nor comments. -/
def feed_lines (text : String) : List (List Char) :=
  ((py_splitlines [] text.toList).map fun line => py_lstrip (py_rstrip line)).filter fun line =>
    line ≠ [] ∧ ¬ starts_with "#" line ∧ ¬ starts_with "//" line

/-- The fields of a line with commas, without their quotes. -/
def line_parts (line : List Char) : List (List Char) :=
  (line.splitOn ',').map fun p => strip_char '"' (py_lstrip (py_rstrip p))

/-- `re.sub(r"^https?://", "", part)`. -/
def drop_scheme (part : List Char) : List Char :=
  if starts_with "https://" part then part.drop 8 else if starts_with "http://" part then part.drop 7 else part

/-- The host of a field: what stands before the path and the port. -/
def clean_domain (part : List Char) : List Char :=
  ((drop_scheme part).takeWhile (· ≠ '/')).takeWhile (· ≠ ':')

def accept_ip (line : List Char) : List Accepted :=
  match search_ip line with
  | some ip =>
    if starts_with "127." ip ∨ starts_with "10." ip ∨ starts_with "192.168." ip then [] else [⟨"ip", ip, ip⟩]
  | none => []

def accept_hash (part : List Char) : Option Accepted :=
  if hash_match part then some ⟨"hash", part, ascii_lower part⟩ else none

def accept_domain (part : List Char) : Option Accepted :=
  if domain_match (clean_domain part) then some ⟨"domain", clean_domain part, ascii_lower (clean_domain part)⟩
  else none

/-- What a line of a feed yields. -/
def accept_line (feed_type : String) (line : List Char) : List Accepted :=
  let parts := line_parts line
  let candidate := parts.headD line
  if feed_type = "ip" then accept_ip line
  else if feed_type = "hash" then parts.filterMap accept_hash
  else if feed_type ∈ ["domain", "url"] then
    if starts_with "http://" candidate ∨ starts_with "https://" candidate then [⟨"url", candidate, candidate⟩]
    else parts.filterMap accept_domain
  else []

/-- The indicators of a feed in the order of the text. -/
def accepted_indicators (text feed_type : String) : List Accepted :=
  (feed_lines text).flatMap (accept_line feed_type)

/-- The set `extracted`, in the order of the text. -/
def extracted (text feed_type : String) : List String :=
  ((accepted_indicators text feed_type).map fun a => String.ofList a.value).dedup

/-- `_extract_indicators_from_text`. The order of a set is none of the program's. -/
def extract_indicators (set_order : List String → List String) (text feed_type : String) : List String :=
  (set_order (extracted text feed_type)).take 500

/-- The indicator as it may be asked for: as it is written, or for hashes and domains in any letter case. -/
def Accepted.Asked (self : Accepted) (query : List Char) : Prop :=
  query = self.written ∨ (self.kind ∈ ["hash", "domain"] ∧ ascii_lower query = ascii_lower self.written)

section Normal

variable {feed_type text : String} {line : List Char} {a b : Accepted}

theorem colon_mem_of_scheme {cs : List Char} (h : starts_with "http://" cs ∨ starts_with "https://" cs) : ':' ∈ cs := by
  rcases h with h | h
  · exact (List.isPrefixOf_iff_prefix.mp h).subset (by decide)
  · exact (List.isPrefixOf_iff_prefix.mp h).subset (by decide)

theorem colon_not_mem_clean_domain (part : List Char) : ':' ∉ clean_domain part := by
  intro hmem
  have hcolon := List.mem_takeWhile_imp hmem
  simp at hcolon

theorem colon_mem_ascii_lower {cs : List Char} : ':' ∈ ascii_lower cs ↔ ':' ∈ cs := by
  constructor
  · intro hmem
    obtain ⟨c, hc, hlower⟩ := List.mem_map.mp hmem
    rwa [eq_colon_of_toLower hlower] at hc
  · intro hmem
    exact List.mem_map.mpr ⟨':', hmem, by decide⟩

/-- Hashes and domains are stored in lower case, addresses and URLs as they are written. -/
inductive Normal (feed_type : String) (a : Accepted) : Prop where
  | ip (hfeed : feed_type = "ip") (hkind : a.kind = "ip") (hvalue : a.value = a.written)
  | hash (hfeed : feed_type = "hash") (hkind : a.kind = "hash") (hvalue : a.value = ascii_lower a.written)
  | url (hfeed : feed_type ∈ ["domain", "url"]) (hkind : a.kind = "url") (hvalue : a.value = a.written)
      (hcolon : ':' ∈ a.written)
  | domain (hfeed : feed_type ∈ ["domain", "url"]) (hkind : a.kind = "domain")
      (hvalue : a.value = ascii_lower a.written) (hcolon : ':' ∉ a.written)

theorem normal_of_mem_accept_line (h : a ∈ accept_line feed_type line) : Normal feed_type a := by
  unfold accept_line at h
  split at h
  · rename_i hfeed
    unfold accept_ip at h
    split at h
    · split at h
      · cases h
      · cases List.mem_singleton.mp h
        exact .ip hfeed rfl rfl
    · cases h
  · split at h
    · rename_i hfeed
      obtain ⟨part, _, haccept⟩ := List.mem_filterMap.mp h
      unfold accept_hash at haccept
      split at haccept
      · cases haccept
        exact .hash hfeed rfl rfl
      · cases haccept
    · split at h
      · rename_i hfeed
        dsimp only at h
        split at h
        · rename_i hscheme
          cases List.mem_singleton.mp h
          exact .url hfeed rfl rfl (colon_mem_of_scheme hscheme)
        · obtain ⟨part, _, haccept⟩ := List.mem_filterMap.mp h
          unfold accept_domain at haccept
          split at haccept
          · cases haccept
            exact .domain hfeed rfl rfl (colon_not_mem_clean_domain part)
          · cases haccept
      · cases h

theorem normal_of_mem (h : a ∈ accepted_indicators text feed_type) : Normal feed_type a := by
  obtain ⟨line, _, hline⟩ := List.mem_flatMap.mp h
  exact normal_of_mem_accept_line hline

/-- The only stored value that an indicator of the feed's own kind can be asked for with is its own. -/
theorem value_eq_of_asked (ha : Normal feed_type a) (hb : Normal feed_type b) (hkind : a.kind = feed_type)
    (hasked : a.Asked b.value) : b.value = a.value := by
  have hkept : a.kind ∉ ["hash", "domain"] → a.value = a.written → b.value = a.value := by
    intro hnot hvalue
    rw [hvalue]
    exact hasked.resolve_right fun h => hnot h.1
  have hlowered : a.value = ascii_lower a.written → ascii_lower b.value = b.value → b.value = a.value := by
    intro hvalue hlower
    rw [hvalue, ← hlower]
    rcases hasked with heq | ⟨_, heq⟩
    · rw [heq]
    · exact heq
  cases ha with
  | ip _ hip hvalue => exact hkept (by rw [hip]; decide) hvalue
  | url _ hurl hvalue _ => exact hkept (by rw [hurl]; decide) hvalue
  | hash hfeed _ hvalue =>
    subst hfeed
    cases hb with
    | hash _ _ hother => exact hlowered hvalue (by rw [hother, ascii_lower_ascii_lower])
    | ip hfeed | url hfeed | domain hfeed => exact absurd hfeed (by decide)
  | domain hfeed hdomain hvalue hcolon =>
    rw [hdomain] at hkind
    subst hkind
    cases hb with
    | domain _ _ hother _ => exact hlowered hvalue (by rw [hother, ascii_lower_ascii_lower])
    | url _ _ hother hurl =>
      -- a stored URL has a colon, and a domain has none in any letter case
      rw [← hother] at hurl
      rcases hasked with heq | ⟨_, heq⟩
      · exact absurd (heq ▸ hurl) hcolon
      · exact absurd (colon_mem_ascii_lower.mp (heq ▸ colon_mem_ascii_lower.mpr hurl)) hcolon
    | ip hfeed | hash hfeed => exact absurd hfeed (by decide)

end Normal

example : (accepted_indicators "# c2\n198.51.100.15\n127.0.0.1" "ip").map Accepted.value =
    ["198.51.100.15".toList] := by decide

end larp
