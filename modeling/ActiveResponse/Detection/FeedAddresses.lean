import ActiveResponse.Detection.FeedExtraction

namespace larp

/-! ## Addresses and tokens -/

/-- A group of an address: one to three digits, at most 255. -/
def octet_value (digits : List Char) : Option ℕ :=
  if digits ≠ [] ∧ digits.length ≤ 3 ∧ digits.all Char.isDigit then (parse_digits 0 false digits).filter (· ≤ 255)
  else none

/-- The four octets of an IPv4 address. -/
def address (token : List Char) : Option (ℕ × ℕ × ℕ × ℕ) :=
  match (token.splitOn '.').map octet_value with
  | [some first, some second, some third, some fourth] => some (first, second, third, fourth)
  | _ => none

/-- 127/8, 10/8, 172.16/12 and 192.168/16. -/
def Internal (first second : ℕ) : Prop :=
  first = 127 ∨ first = 10 ∨ (first = 172 ∧ 16 ≤ second ∧ second < 32) ∨ (first = 192 ∧ second = 168)

/-- An address that is neither a loopback nor a private one. -/
def PublicAddress (token : List Char) : Prop :=
  ∃ first second third fourth, address token = some (first, second, third, fourth) ∧ ¬ Internal first second

/-- A digit or a dot. -/
def is_dotted (c : Char) : Bool := py_isdecimal c ∨ c = '.'

/-- The dotted tokens of a line: the longest sequences of digits and dots that have a dot between digits. -/
def dotted_tokens (line : List Char) : List (List Char) :=
  ((line.splitOnP fun c => !is_dotted c).map (strip_char '.')).filter fun token => '.' ∈ token

/-- A letter of any script, or an underscore: what names have and numbers do not. -/
def is_name_letter (c : Char) : Bool := c.isAlpha ∨ c = '_' ∨ (128 ≤ c.toNat ∧ ¬ py_isspace c ∧ ¬ py_isdecimal c)

/-- What follows an address goes on with it: dots aside, with a letter or a digit, or with a hyphen that joins a name.
The hyphen of a range joins no name. -/
def goes_on (rest : List Char) : Bool :=
  match rest.dropWhile (· = '.') with
  | '-' :: joined => (joined.dropWhile (· = '-')).head?.any is_name_letter
  | c :: _ => is_name_letter c ∨ py_isdecimal c
  | [] => false

/-- Somewhere in the line the address is not part of a longer number, dotted sequence or name. -/
def stands_alone (line token : List Char) : Bool :=
  (List.range (line.length + 1)).any fun n =>
    token.isPrefixOf (line.drop n) ∧ !goes_on (line.take n).reverse ∧ !goes_on (line.drop (n + token.length))

example : stands_alone "to:(8.8.8.8)...".toList "8.8.8.8".toList = true := by decide +kernel

example : stands_alone "4.3.2.1.in-addr.arpa".toList "4.3.2.1".toList = false := by decide +kernel

theorem digit_range {c : Char} (h : c.isDigit) : 48 ≤ c.toNat ∧ c.toNat < 58 := by
  simp only [Char.isDigit, ge_iff_le, Bool.and_eq_true, decide_eq_true_eq, UInt32.le_iff_toNat_le] at h
  exact ⟨h.1, Nat.lt_succ_of_le h.2⟩

theorem py_isdecimal_of_isDigit {c : Char} (h : c.isDigit) : py_isdecimal c := by
  obtain ⟨hlow, hhigh⟩ := digit_range h
  refine List.any_eq_true.mpr ⟨0x30, by decide, decide_eq_true ?_⟩
  omega

/-- The groups of an address, as they are written. -/
theorem address_eq_some {token : List Char} {octets : ℕ × ℕ × ℕ × ℕ} (h : address token = some octets) :
    ∃ a b c d, token = a ++ '.' :: (b ++ '.' :: (c ++ '.' :: d)) ∧ octet_value a = some octets.1 ∧
      octet_value b = some octets.2.1 ∧ octet_value c = some octets.2.2.1 ∧ octet_value d = some octets.2.2.2 := by
  unfold address at h
  split at h
  · rename_i first second third fourth hgroups
    cases h
    obtain ⟨a, rest, hsplit, ha, hrest⟩ := List.map_eq_cons_iff.mp hgroups
    obtain ⟨b, rest, rfl, hb, hrest⟩ := List.map_eq_cons_iff.mp hrest
    obtain ⟨c, rest, rfl, hc, hrest⟩ := List.map_eq_cons_iff.mp hrest
    obtain ⟨d, rest, rfl, hd, hrest⟩ := List.map_eq_cons_iff.mp hrest
    rw [List.map_eq_nil_iff] at hrest
    subst hrest
    have hjoin : ['.'].intercalate (token.splitOn '.') = token := List.intercalate_splitOn '.'
    rw [hsplit] at hjoin
    refine ⟨a, b, c, d, ?_, ha, hb, hc, hd⟩
    rw [← hjoin]
    simp [List.intercalate]
  · cases h

theorem octet_value_eq_some {digits : List Char} {value : ℕ} (h : octet_value digits = some value) :
    digits ≠ [] ∧ digits.length ≤ 3 ∧ ∀ c ∈ digits, py_isdecimal c := by
  unfold octet_value at h
  split at h
  · rename_i hdigits
    exact ⟨hdigits.1, hdigits.2.1, fun c hc => py_isdecimal_of_isDigit (List.all_eq_true.mp hdigits.2.2 c hc)⟩
  · cases h

/-! ## The search -/

/-- A group of digits that ends where the next character is no digit. -/
theorem octet_append {digits rest : List Char} (hne : digits ≠ []) (hlength : digits.length ≤ 3)
    (hdigits : ∀ c ∈ digits, py_isdecimal c) (hrest : ∀ c ∈ rest.head?, ¬ py_isdecimal c) :
    octet (digits ++ rest) = some (digits, rest) := by
  have htake : ((digits ++ rest).take 3).takeWhile py_isdecimal = digits := by
    rw [List.take_append, List.take_of_length_le hlength, List.takeWhile_append_of_pos hdigits]
    have hstop : (rest.take (3 - digits.length)).takeWhile py_isdecimal = [] := by
      cases hroom : 3 - digits.length with
      | zero => rfl
      | succ n =>
        cases rest with
        | nil => rfl
        | cons c rest =>
          have hc : ¬ py_isdecimal c := hrest c rfl
          rw [List.take_succ_cons, List.takeWhile_cons_of_neg hc]
    rw [hstop, List.append_nil]
  have hempty : digits.isEmpty = false := List.isEmpty_eq_false_iff.mpr hne
  simp only [octet, htake, hempty, Bool.false_eq_true, if_false, List.drop_left]

theorem dot_octet_append {digits rest : List Char} (hne : digits ≠ []) (hlength : digits.length ≤ 3)
    (hdigits : ∀ c ∈ digits, py_isdecimal c) (hrest : ∀ c ∈ rest.head?, ¬ py_isdecimal c) :
    dot_octet ('.' :: (digits ++ rest)) = some ('.' :: digits, rest) := by
  rw [dot_octet, octet_append hne hlength hdigits hrest]
  rfl

theorem not_isdecimal_dot : ¬ py_isdecimal '.' := by decide

/-- Where an address stands that no digit follows, the pattern matches it. -/
theorem ip_at_address {token rest : List Char} {octets : ℕ × ℕ × ℕ × ℕ} (h : address token = some octets)
    (hrest : ∀ c ∈ rest.head?, ¬ py_isdecimal c) : ip_at (token ++ rest) = some token := by
  obtain ⟨a, b, c, d, rfl, ha, hb, hc, hd⟩ := address_eq_some h
  obtain ⟨hane, halength, hadigits⟩ := octet_value_eq_some ha
  obtain ⟨hbne, hblength, hbdigits⟩ := octet_value_eq_some hb
  obtain ⟨hcne, hclength, hcdigits⟩ := octet_value_eq_some hc
  obtain ⟨hdne, hdlength, hddigits⟩ := octet_value_eq_some hd
  have hdot : ∀ {digits : List Char}, ∀ e ∈ ('.' :: digits).head?, ¬ py_isdecimal e := by
    intro digits e he
    rw [← Option.mem_some_iff.mp he]
    exact not_isdecimal_dot
  have hfirst : octet (a ++ '.' :: (b ++ '.' :: (c ++ '.' :: (d ++ rest)))) = some (a, _) :=
    octet_append hane halength hadigits hdot
  have hsecond : dot_octet ('.' :: (b ++ '.' :: (c ++ '.' :: (d ++ rest)))) = some ('.' :: b, _) :=
    dot_octet_append hbne hblength hbdigits hdot
  have hthird : dot_octet ('.' :: (c ++ '.' :: (d ++ rest))) = some ('.' :: c, _) :=
    dot_octet_append hcne hclength hcdigits hdot
  have hfourth : dot_octet ('.' :: (d ++ rest)) = some ('.' :: d, rest) :=
    dot_octet_append hdne hdlength hddigits hrest
  simp only [List.append_assoc, List.cons_append, ip_at, hfirst, hsecond, hthird, hfourth, Option.bind_eq_bind,
    Option.bind_some, Option.pure_def]

/-- A group of digits stands at the start of the text. -/
theorem octet_eq_some {cs digits rest : List Char} (h : octet cs = some (digits, rest)) :
    cs = digits ++ rest ∧ digits ≠ [] ∧ ∀ c ∈ digits, py_isdecimal c := by
  unfold octet at h
  dsimp only at h
  split at h
  · cases h
  · rename_i hne
    cases h
    have hbegins : ((cs.take 3).takeWhile py_isdecimal) <+: cs :=
      (List.takeWhile_prefix _).trans (List.take_prefix 3 cs)
    exact ⟨(List.prefix_iff_eq_append.mp hbegins).symm, by simpa using hne, fun c hc => List.mem_takeWhile_imp hc⟩

/-- A match begins with digits that a dot and another digit follow. -/
theorem dropWhile_of_ip_at {cs ip : List Char} (h : ip_at cs = some ip) :
    (∀ c ∈ cs.head?, py_isdecimal c) ∧
      ∃ c rest, cs.dropWhile py_isdecimal = '.' :: c :: rest ∧ py_isdecimal c := by
  unfold ip_at at h
  simp only [Option.bind_eq_bind, Option.bind_eq_some_iff] at h
  obtain ⟨⟨first, after⟩, hfirst, ⟨second, rest⟩, hsecond, -⟩ := h
  obtain ⟨rfl, hne, hdigits⟩ := octet_eq_some hfirst
  constructor
  · obtain ⟨d, first, rfl⟩ := List.exists_cons_of_ne_nil hne
    intro c hc
    rw [← Option.mem_some_iff.mp hc]
    exact hdigits d List.mem_cons_self
  · unfold dot_octet at hsecond
    split at hsecond
    · rename_i rest hafter
      obtain ⟨⟨digits, last⟩, hoctet, -⟩ := Option.map_eq_some_iff.mp hsecond
      obtain ⟨rfl, hne, hdecimal⟩ := octet_eq_some hoctet
      obtain ⟨c, digits, rfl⟩ := List.exists_cons_of_ne_nil hne
      refine ⟨c, digits ++ last, ?_, hdecimal c List.mem_cons_self⟩
      dsimp only at hafter
      rw [List.dropWhile_append_of_pos hdigits, hafter, List.dropWhile_cons_of_neg not_isdecimal_dot]
      rfl
    · cases hsecond

theorem search_ip_of_ip_at {cs ip : List Char} (h : ip_at cs = some ip) : search_ip cs = some ip := by
  cases cs with
  | nil => cases h
  | cons c cs => rw [search_ip, h, Option.some_or]

/-- No match begins where no digit stands. -/
theorem search_ip_cons_of_not_decimal {c : Char} (h : ¬ py_isdecimal c) (cs : List Char) :
    search_ip (c :: cs) = search_ip cs := by
  have hnone : ip_at (c :: cs) = none := by
    rw [Option.eq_none_iff_forall_ne_some]
    intro ip hip
    exact h ((dropWhile_of_ip_at hip).1 c rfl)
  rw [search_ip, hnone, Option.none_or]

theorem search_ip_dots (n : ℕ) (cs : List Char) : search_ip (List.replicate n '.' ++ cs) = search_ip cs := by
  induction n with
  | zero => rfl
  | succ n ih =>
    rw [List.replicate_succ, List.cons_append, search_ip_cons_of_not_decimal not_isdecimal_dot, ih]

/-- Digits that no dot and digit follow are passed over. -/
theorem search_ip_digits {digits rest : List Char} (hdigits : ∀ c ∈ digits, py_isdecimal c)
    (hrest : ∀ c after, rest = '.' :: c :: after → ¬ py_isdecimal c) (hhead : ∀ c ∈ rest.head?, ¬ py_isdecimal c) :
    search_ip (digits ++ rest) = search_ip rest := by
  induction digits with
  | nil => rfl
  | cons d digits ih =>
    have hnone : ip_at (d :: (digits ++ rest)) = none := by
      rw [Option.eq_none_iff_forall_ne_some]
      intro ip hip
      obtain ⟨-, c, after, hdrop, hc⟩ := dropWhile_of_ip_at hip
      have hstop : rest.dropWhile py_isdecimal = rest := by
        cases rest with
        | nil => rfl
        | cons e rest => exact List.dropWhile_cons_of_neg (hhead e rfl)
      rw [← List.cons_append, List.dropWhile_append_of_pos hdigits, hstop] at hdrop
      exact hrest c after hdrop hc
    rw [List.cons_append, search_ip, hnone, Option.none_or]
    exact ih fun c hc => hdigits c (List.mem_cons_of_mem _ hc)

/-! ## The first token -/

theorem exists_dots {cs : List Char} (h : ∀ c ∈ cs, c = '.') : ∃ n, cs = List.replicate n '.' :=
  ⟨cs.length, List.eq_replicate_of_mem h⟩

/-- Stripping takes dots away at both ends. -/
theorem strip_dots_spec (cs : List Char) :
    ∃ n m, cs = List.replicate n '.' ++ (strip_char '.' cs ++ List.replicate m '.') := by
  have hleft : ∀ c ∈ cs.takeWhile (· = '.'), c = '.' := fun c hc => by simpa using List.mem_takeWhile_imp hc
  have hright : ∀ c ∈ (cs.dropWhile (· = '.')).rtakeWhile (· = '.'), c = '.' :=
    fun c hc => by simpa using List.mem_rtakeWhile_imp hc
  obtain ⟨n, hn⟩ := exists_dots hleft
  obtain ⟨m, hm⟩ := exists_dots hright
  refine ⟨n, m, ?_⟩
  rw [← hn, ← hm, strip_char, List.rdropWhile_append_rtakeWhile, List.takeWhile_append_dropWhile]

/-- What stands behind a run begins with no digit and no dot. -/
def Ends (rest : List Char) : Prop := ∀ c ∈ rest.head?, is_dotted c = false

theorem not_isdecimal_of_ends {rest : List Char} (h : Ends rest) : ∀ c ∈ rest.head?, ¬ py_isdecimal c := by
  intro c hc hdecimal
  have hnot := h c hc
  simp [is_dotted, hdecimal] at hnot

theorem not_isdecimal_after_dots {rest : List Char} (h : Ends rest) (m : ℕ) :
    ∀ c ∈ (List.replicate m '.' ++ rest).head?, ¬ py_isdecimal c := by
  cases m with
  | zero => exact not_isdecimal_of_ends h
  | succ m =>
    intro c hc
    rw [← Option.mem_some_iff.mp hc]
    exact not_isdecimal_dot

/-- A run without a dotted token is passed over. -/
theorem search_ip_run {run rest : List Char} (hrun : ∀ c ∈ run, is_dotted c) (htoken : '.' ∉ strip_char '.' run)
    (hends : Ends rest) : search_ip (run ++ rest) = search_ip rest := by
  obtain ⟨n, m, hsplit⟩ := strip_dots_spec run
  have hdigits : ∀ c ∈ strip_char '.' run, py_isdecimal c := by
    intro c hc
    have hdotted : is_dotted c := hrun c (by rw [hsplit]; simp [hc])
    have hne : c ≠ '.' := fun hdot => htoken (hdot ▸ hc)
    simpa [is_dotted, hne] using hdotted
  generalize strip_char '.' run = digits at hsplit hdigits
  have hafter : ∀ c after, List.replicate m '.' ++ rest = '.' :: c :: after → ¬ py_isdecimal c := by
    intro c after heq
    match m with
    | 0 =>
      have hdot := hends '.' (by rw [show rest = '.' :: c :: after from heq]; rfl)
      cases hdot
    | 1 =>
      have hrest : rest = c :: after := (List.cons.inj heq).2
      exact not_isdecimal_of_ends hends c (by rw [hrest]; rfl)
    | m + 2 =>
      rw [← (List.cons.inj (List.cons.inj heq).2).1]
      exact not_isdecimal_dot
  rw [hsplit, List.append_assoc, List.append_assoc, search_ip_dots,
    search_ip_digits hdigits hafter (not_isdecimal_after_dots hends m), search_ip_dots]

/-- The token of a run, if it is one. -/
def run_token (run : List Char) : List (List Char) :=
  [strip_char '.' run].filter fun token => '.' ∈ token

theorem run_token_of_mem {run : List Char} (h : '.' ∈ strip_char '.' run) : run_token run = [strip_char '.' run] :=
  List.filter_cons_of_pos (by simpa using h)

theorem run_token_of_not_mem {run : List Char} (h : '.' ∉ strip_char '.' run) : run_token run = [] :=
  List.filter_cons_of_neg (by simpa using h)

theorem dotted_tokens_run {run : List Char} (hrun : ∀ c ∈ run, is_dotted c) : dotted_tokens run = run_token run := by
  rw [dotted_tokens, List.splitOnP_eq_singleton fun c hc => by simp [hrun c hc]]
  rfl

theorem dotted_tokens_run_cons {run : List Char} (hrun : ∀ c ∈ run, is_dotted c) {sep : Char}
    (hsep : is_dotted sep = false) (rest : List Char) :
    dotted_tokens (run ++ sep :: rest) = run_token run ++ dotted_tokens rest := by
  rw [dotted_tokens, List.splitOnP_append_cons_of_forall_mem (fun c hc => by simp [hrun c hc]) sep (by simp [hsep]),
    List.map_cons, ← List.singleton_append, List.filter_append]
  rfl

/-- The first token of a run that has one is found where it stands. -/
theorem search_ip_of_run_token {run rest token : List Char} {octets : ℕ × ℕ × ℕ × ℕ} (hends : Ends rest)
    (htoken : strip_char '.' run = token) (haddress : address token = some octets) :
    search_ip (run ++ rest) = some token := by
  obtain ⟨n, m, hsplit⟩ := strip_dots_spec run
  rw [hsplit, htoken, List.append_assoc, List.append_assoc, search_ip_dots]
  exact search_ip_of_ip_at (ip_at_address haddress (not_isdecimal_after_dots hends m))

/-- If the first dotted token of a line is an address, the search finds it. -/
theorem search_ip_of_first_token {line token : List Char} {octets : ℕ × ℕ × ℕ × ℕ}
    (hfirst : (dotted_tokens line).head? = some token) (haddress : address token = some octets) :
    search_ip line = some token := by
  induction hlength : line.length using Nat.strong_induction_on generalizing line with
  | _ length ih =>
    have hrun : ∀ c ∈ line.takeWhile is_dotted, is_dotted c := fun c hc => List.mem_takeWhile_imp hc
    have hline : line = line.takeWhile is_dotted ++ line.dropWhile is_dotted :=
      List.takeWhile_append_dropWhile.symm
    have hsmaller : (line.dropWhile is_dotted).length ≤ line.length := (List.dropWhile_suffix _).length_le
    generalize line.takeWhile is_dotted = run at hrun hline
    cases hrest : line.dropWhile is_dotted with
    | nil =>
      rw [hrest, List.append_nil] at hline
      rw [hline, dotted_tokens_run hrun] at hfirst
      by_cases hdot : '.' ∈ strip_char '.' run
      · rw [run_token_of_mem hdot] at hfirst
        have hends : Ends [] := by simp [Ends]
        have hfound := search_ip_of_run_token hends (Option.some.inj hfirst) haddress
        rwa [List.append_nil, ← hline] at hfound
      · rw [run_token_of_not_mem hdot] at hfirst
        cases hfirst
    | cons sep rest =>
      have hsep : is_dotted sep = false := by
        have hhead := List.head?_dropWhile_not is_dotted line
        rw [hrest] at hhead
        simpa using hhead
      have hends : Ends (sep :: rest) := by
        intro c hc
        rw [← Option.mem_some_iff.mp hc]
        exact hsep
      rw [hrest] at hline hsmaller
      rw [hline, dotted_tokens_run_cons hrun hsep] at hfirst
      rw [hline]
      by_cases hdot : '.' ∈ strip_char '.' run
      · rw [run_token_of_mem hdot] at hfirst
        exact search_ip_of_run_token hends (Option.some.inj hfirst) haddress
      · rw [run_token_of_not_mem hdot] at hfirst
        have hnot : ¬ py_isdecimal sep := not_isdecimal_of_ends hends sep rfl
        rw [search_ip_run hrun hdot hends, search_ip_cons_of_not_decimal hnot]
        exact ih rest.length (by simp only [List.length_cons] at hsmaller; omega) hfirst rfl

/-! ## The excluded prefixes -/

/-- The prefixes of the addresses that are left out. -/
def Excluded (ip : List Char) : Prop := starts_with "127." ip ∨ starts_with "10." ip ∨ starts_with "192.168." ip

theorem dot_not_mem_octet {digits : List Char} {value : ℕ} (h : octet_value digits = some value) : '.' ∉ digits :=
  fun hmem => not_isdecimal_dot ((octet_value_eq_some h).2.2 _ hmem)

/-- The first group of a text is what stands before the first dot. -/
theorem group_inj {a b rest other : List Char} (ha : '.' ∉ a) (hb : '.' ∉ b)
    (h : a ++ '.' :: rest = b ++ '.' :: other) : a = b ∧ rest = other := by
  obtain ⟨cs, rfl, hcs⟩ | ⟨cs, rfl, hcs⟩ := List.append_eq_append_iff.mp h
  · cases cs with
    | nil => exact ⟨(List.append_nil a).symm, (List.cons.inj hcs).2⟩
    | cons c cs => simp [← (List.cons.inj hcs).1] at hb
  · cases cs with
    | nil => exact ⟨List.append_nil b, (List.cons.inj hcs).2.symm⟩
    | cons c cs => simp [← (List.cons.inj hcs).1] at ha

/-- An octet from 100 on is written with three digits. -/
theorem octet_value_hundreds {digits : List Char} {value : ℕ} (h : octet_value digits = some value)
    (hvalue : 100 ≤ value) : ∃ a b c : Char, digits = [a, b, c] ∧ (48 ≤ a.toNat ∧ 48 ≤ b.toNat ∧ 48 ≤ c.toNat) ∧
      (b.toNat < 58 ∧ c.toNat < 58) ∧ value + 5328 = 100 * a.toNat + 10 * b.toNat + c.toNat := by
  unfold octet_value at h
  split at h
  · rename_i hdigits
    obtain ⟨-, hlength, hall⟩ := hdigits
    obtain ⟨hvalue_eq, -⟩ := Option.filter_eq_some_iff.mp h
    match digits, hlength, hall with
    | [], _, _ => cases hvalue_eq
    | [a], _, hall =>
      simp only [List.all_cons, List.all_nil, Bool.and_true] at hall
      rw [parse_digits_cons hall, parse_digits, if_pos rfl, Option.some.injEq] at hvalue_eq
      have := digit_range hall
      omega
    | [a, b], _, hall =>
      simp only [List.all_cons, List.all_nil, Bool.and_true, Bool.and_eq_true] at hall
      rw [parse_digits_cons hall.1, parse_digits_cons hall.2, parse_digits, if_pos rfl,
        Option.some.injEq] at hvalue_eq
      have := digit_range hall.1
      have := digit_range hall.2
      omega
    | [a, b, c], _, hall =>
      simp only [List.all_cons, List.all_nil, Bool.and_true, Bool.and_eq_true] at hall
      rw [parse_digits_cons hall.1, parse_digits_cons hall.2.1, parse_digits_cons hall.2.2, parse_digits, if_pos rfl,
        Option.some.injEq] at hvalue_eq
      have ha := digit_range hall.1
      have hb := digit_range hall.2.1
      have hc := digit_range hall.2.2
      exact ⟨a, b, c, rfl, ⟨ha.1, hb.1, hc.1⟩, ⟨hb.2, hc.2⟩, by omega⟩
    | _ :: _ :: _ :: _ :: _, hlength, _ => exact absurd hlength (by simp only [List.length_cons]; omega)
  · cases h

theorem octet_value_inj {digits other : List Char} {value : ℕ} (h : octet_value digits = some value)
    (hother : octet_value other = some value) (hvalue : 100 ≤ value) : digits = other := by
  obtain ⟨a, b, c, rfl, hlow, hhigh, hsum⟩ := octet_value_hundreds h hvalue
  obtain ⟨a', b', c', rfl, hlow', hhigh', hsum'⟩ := octet_value_hundreds hother hvalue
  have ha : a = a' := Char.toNat_inj.mp (by omega)
  have hb : b = b' := Char.toNat_inj.mp (by omega)
  have hc : c = c' := Char.toNat_inj.mp (by omega)
  rw [ha, hb, hc]

/-- Of the internal addresses the prefixes leave out 127/8, 192.168/16 and what begins with `10.`. -/
theorem internal_iff {ip : List Char} {octets : ℕ × ℕ × ℕ × ℕ} (h : address ip = some octets) :
    Internal octets.1 octets.2.1 ↔
      Excluded ip ∨ octets.1 = 10 ∨ (octets.1 = 172 ∧ 16 ≤ octets.2.1 ∧ octets.2.1 < 32) := by
  obtain ⟨a, b, c, d, rfl, ha, hb, -, -⟩ := address_eq_some h
  generalize c ++ '.' :: d = rest
  constructor
  · rintro (hfirst | hfirst | hfirst | ⟨hfirst, hsecond⟩)
    · have hwritten : octet_value "127".toList = some octets.1 := by rw [hfirst]; decide
      rw [octet_value_inj ha hwritten (by omega)]
      exact .inl (.inl (List.isPrefixOf_iff_prefix.mpr ⟨b ++ '.' :: rest, rfl⟩))
    · exact .inr (.inl hfirst)
    · exact .inr (.inr hfirst)
    · have hwritten : octet_value "192".toList = some octets.1 := by rw [hfirst]; decide
      have hwritten' : octet_value "168".toList = some octets.2.1 := by rw [hsecond]; decide
      rw [octet_value_inj ha hwritten (by omega), octet_value_inj hb hwritten' (by omega)]
      exact .inl (.inr (.inr (List.isPrefixOf_iff_prefix.mpr ⟨rest, rfl⟩)))
  · have hgroup : ∀ pre tail : List Char, '.' ∉ pre → pre ++ '.' :: tail = a ++ '.' :: (b ++ '.' :: rest) →
        octet_value pre = some octets.1 ∧ tail = b ++ '.' :: rest := by
      intro pre tail hpre heq
      obtain ⟨rfl, htail⟩ := group_inj hpre (dot_not_mem_octet ha) heq
      exact ⟨ha, htail⟩
    rintro ((hpre | hpre | hpre) | hfirst | hfirst)
    · obtain ⟨tail, htail⟩ := List.isPrefixOf_iff_prefix.mp hpre
      have hvalue := (hgroup "127".toList _ (by decide) htail).1
      exact .inl (Option.some.inj (hvalue.symm.trans (by decide)))
    · obtain ⟨tail, htail⟩ := List.isPrefixOf_iff_prefix.mp hpre
      have hvalue := (hgroup "10".toList _ (by decide) htail).1
      exact .inr (.inl (Option.some.inj (hvalue.symm.trans (by decide))))
    · obtain ⟨tail, htail⟩ := List.isPrefixOf_iff_prefix.mp hpre
      obtain ⟨hvalue, hrest⟩ := hgroup "192".toList ("168.".toList ++ tail) (by decide) htail
      obtain ⟨rfl, -⟩ := group_inj (a := "168".toList) (by decide) (dot_not_mem_octet hb) hrest
      exact .inr (.inr (.inr ⟨Option.some.inj (hvalue.symm.trans (by decide)),
        Option.some.inj (hb.symm.trans (by decide))⟩))
    · exact .inr (.inl hfirst)
    · exact .inr (.inr (.inl hfirst))

/-! ## The law -/

/-- The extraction from an address feed: every value is a public address that stands alone in a line, and every line
whose first dotted token is one and stands alone contributes it, below the cap. -/
structure ExtractsAddresses (text : String) : Prop where
  sound : ∀ set_order : List String → List String, (∀ values, (set_order values).Perm values) →
    ∀ value ∈ extract_indicators set_order text "ip",
      ∃ line ∈ feed_lines text, ∃ token, stands_alone line token ∧ PublicAddress token ∧ value = String.ofList token
  complete : ∀ set_order : List String → List String, (∀ values, (set_order values).Perm values) →
    (extracted text "ip").length ≤ 500 → ∀ line ∈ feed_lines text, ∀ token, (dotted_tokens line).head? = some token →
      stands_alone line token → PublicAddress token → String.ofList token ∈ extract_indicators set_order text "ip"

/-- A match that the extraction may take: its prefix leaves it out, or it stands alone in a line of the feed, has
octets up to 255, and is in none of the ranges that the prefixes miss. -/
def Handled (text : String) (ip : List Char) : Prop :=
  Excluded ip ∨
    ((∃ first second third fourth, address ip = some (first, second, third, fourth) ∧ first ≠ 10 ∧
        ¬ (first = 172 ∧ 16 ≤ second ∧ second < 32)) ∧
      ∃ line ∈ feed_lines text, stands_alone line ip)

section Law

variable {text value : String} {ip : List Char} {set_order : List String → List String}

theorem handled_iff : Handled text ip ↔
    Excluded ip ∨ (PublicAddress ip ∧ ∃ line ∈ feed_lines text, stands_alone line ip) := by
  unfold Handled
  by_cases hexcluded : Excluded ip
  · exact ⟨fun _ => .inl hexcluded, fun _ => .inl hexcluded⟩
  have hpublic : (∃ first second third fourth, address ip = some (first, second, third, fourth) ∧ first ≠ 10 ∧
      ¬ (first = 172 ∧ 16 ≤ second ∧ second < 32)) ↔ PublicAddress ip := by
    constructor
    · rintro ⟨first, second, third, fourth, haddress, hten, htwelve⟩
      refine ⟨first, second, third, fourth, haddress, fun hinternal => ?_⟩
      obtain h | h | h := (internal_iff haddress).mp hinternal
      · exact hexcluded h
      · exact hten h
      · exact htwelve h
    · rintro ⟨first, second, third, fourth, haddress, hinternal⟩
      exact ⟨first, second, third, fourth, haddress, fun h => hinternal (.inr (.inl h)),
        fun h => hinternal (.inr (.inr (.inl h)))⟩
  rw [hpublic]

theorem mem_accept_ip {line : List Char} {a : Accepted} :
    a ∈ accept_ip line ↔ ∃ ip, search_ip line = some ip ∧ ¬ Excluded ip ∧ a = ⟨"ip", ip, ip⟩ := by
  unfold accept_ip Excluded
  split
  · rename_i ip hsearch
    split
    · rename_i hexcluded
      simp only [hsearch, Option.some.injEq, exists_eq_left', hexcluded, not_true_eq_false, false_and,
        List.not_mem_nil]
    · rename_i hexcluded
      simp only [hsearch, Option.some.injEq, exists_eq_left', List.mem_singleton, hexcluded, not_false_eq_true,
        true_and]
  · rename_i hsearch
    simp [hsearch]

/-- The values of an address feed are the matches of its lines that no prefix leaves out. -/
theorem mem_extracted_ip : value ∈ extracted text "ip" ↔
    ∃ line ∈ feed_lines text, ∃ ip, search_ip line = some ip ∧ ¬ Excluded ip ∧ value = String.ofList ip := by
  rw [extracted, List.mem_dedup, List.mem_map]
  constructor
  · rintro ⟨a, ha, rfl⟩
    obtain ⟨line, hline, haccept⟩ := List.mem_flatMap.mp ha
    obtain ⟨ip, hip, hexcluded, rfl⟩ := mem_accept_ip.mp haccept
    exact ⟨line, hline, ip, hip, hexcluded, rfl⟩
  · rintro ⟨line, hline, ip, hip, hexcluded, rfl⟩
    exact ⟨⟨"ip", ip, ip⟩, List.mem_flatMap.mpr ⟨line, hline, mem_accept_ip.mpr ⟨ip, hip, hexcluded, rfl⟩⟩, rfl⟩

theorem mem_extracted_of_mem (hperm : ∀ values, (set_order values).Perm values)
    (h : value ∈ extract_indicators set_order text "ip") : value ∈ extracted text "ip" :=
  (hperm _).mem_iff.mp (List.mem_of_mem_take h)

/-- An order in which a set may be iterated that puts a value of it first. -/
def first_order (value : String) (values : List String) : List String :=
  if value ∈ values then value :: values.erase value else values

theorem first_order_perm (value : String) (values : List String) : (first_order value values).Perm values := by
  unfold first_order
  split
  · rename_i hmem
    exact (List.perm_cons_erase hmem).symm
  · exact .refl _

theorem mem_extract_first_order (h : value ∈ extracted text "ip") :
    value ∈ extract_indicators (first_order value) text "ip" := by
  rw [extract_indicators, first_order, if_pos h, List.take_succ_cons]
  exact List.mem_cons_self

end Law

end larp
