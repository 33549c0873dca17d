import HttpDoctest.Exchange.HeaderMap
import HttpDoctest.Proofs.Table
import HttpDoctest.Proofs.Text.Bytes

set_option autoImplicit false

/-! # Headers through a header map

A header map that headers are put into holds, under each name in lower case, the values of all
headers with that name, names in the order in which they first come (`Holds`). The first header that
does not fit stops the others and leaves what came before it. Coming back, each name has the values
that are plain text, joined, and a name without any is left out (`headers_survive`). All this is so
whatever the rules are by which a header fits.
-/

namespace HttpDoctest.HeaderMap

/-! ## Values as bytes -/

/-- Whether a character is visible ASCII, a space or a tab. -/
def isPlain (c : Char) : Bool :=
  c == '\t' || (' ' ≤ c && c ≤ '~')

section

variable {b : UInt8} {c : Char}

theorem isPlain_iff : isPlain c = true ↔ c.toNat = 9 ∨ 32 ≤ c.toNat ∧ c.toNat < 127 := by
  simp [isPlain, Char.le_def, UInt32.le_iff_toNat_le, ← Char.toNat_inj]
  omega

theorem isReadable_iff : isReadable b = true ↔ b.toNat = 9 ∨ 32 ≤ b.toNat ∧ b.toNat < 127 := by
  simp [isReadable, UInt8.le_iff_toNat_le, UInt8.lt_iff_toNat_lt, ← UInt8.toNat_inj]

theorem utf8EncodeChar_of_isPlain (h : isPlain c = true) :
    ∃ b, String.utf8EncodeChar c = [b] ∧ isReadable b = true ∧ Char.ofNat b.toNat = c := by
  have hplain := isPlain_iff.1 h
  have hnat : (UInt8.ofNat c.toNat).toNat = c.toNat := by
    rw [UInt8.toNat_ofNat']
    omega
  refine ⟨UInt8.ofNat c.toNat, Text.utf8EncodeChar_of_lt (by omega), ?_, ?_⟩
  · rwa [isReadable_iff, hnat]
  · rw [hnat, Char.ofNat_toNat]

/-- A character that is not plain does not even start with a byte that can be read back: the byte
would be all of another character. -/
theorem isPlain_of_readable (h : (String.utf8EncodeChar c).all isReadable = true) :
    isPlain c = true := by
  obtain ⟨b, rest, hbytes⟩ := List.exists_cons_of_ne_nil (String.utf8EncodeChar_ne_nil (c := c))
  rw [hbytes, List.all_cons, Bool.and_eq_true] at h
  have hb := isReadable_iff.1 h.1
  have hnat : (Char.ofNat b.toNat).toNat = b.toNat := by
    rw [Char.ofNat, dif_pos (.inl (by omega))]
    rfl
  have hbyte : String.utf8EncodeChar (Char.ofNat b.toNat) = [b] := by
    rw [Text.utf8EncodeChar_of_lt (by omega), hnat, UInt8.ofNat_toNat]
  have hsame : String.utf8EncodeChar (Char.ofNat b.toNat) ++ rest =
      String.utf8EncodeChar c ++ [] := by
    rw [hbyte, hbytes, List.append_nil, List.singleton_append]
  rw [← (Text.utf8EncodeChar_append_inj hsame).1, isPlain_iff, hnat]
  exact hb

theorem all_utf8EncodeChar (c : Char) : (String.utf8EncodeChar c).all isReadable = isPlain c := by
  rw [Bool.eq_iff_iff]
  refine ⟨isPlain_of_readable, fun h => ?_⟩
  obtain ⟨b, hbytes, hb, -⟩ := utf8EncodeChar_of_isPlain h
  simp [hbytes, hb]

end

/-- Whether a text is plain: visible ASCII, spaces and tabs. -/
def isPlainText (value : String) : Bool :=
  value.toList.all isPlain

/-- A value that is plain text is read back as it was sent, and no other value is read back. -/
theorem readable?_bytesOf (value : String) :
    readable? (bytesOf value) = if isPlainText value then some value else none := by
  have hall : (bytesOf value).all isReadable = isPlainText value := by
    rw [bytesOf, List.all_flatMap]
    exact congrArg value.toList.all (funext all_utf8EncodeChar)
  rw [readable?, hall]
  by_cases hplain : isPlainText value = true
  · have hback : (bytesOf value).map (fun b => Char.ofNat b.toNat) = value.toList := by
      rw [isPlainText, List.all_eq_true] at hplain
      rw [bytesOf]
      generalize value.toList = text at hplain
      induction text with
      | nil => rfl
      | cons c text ih =>
          obtain ⟨hc, htext⟩ := List.forall_mem_cons.1 hplain
          obtain ⟨b, hbytes, -, hb⟩ := utf8EncodeChar_of_isPlain hc
          rw [List.flatMap_cons, List.map_append, ih htext, hbytes, List.map_singleton, hb,
            List.singleton_append]
    rw [if_pos hplain, if_pos hplain, hback, String.ofList_toList]
  · rw [if_neg hplain, if_neg hplain]

/-! ## Headers that go out -/

/-- The name of a header on the wire. -/
def lowerName (entry : String × String) : String :=
  String.ofList (Text.toLower entry.1.toList)

/-- The map with headers added. -/
def appendAll (map : HeaderMap) (entries : List (String × String)) : HeaderMap :=
  entries.foldl (fun map entry => map.append (lowerName entry) (bytesOf entry.2)) map

namespace Rules

variable (rules : Rules)

/-- Whether the name of a header can be sent. -/
def NameFits (entry : String × String) : Prop :=
  rules.isName (Text.toLower entry.1.toList) = true

/-- Whether the value of a header can be sent. -/
def ValueFits (entry : String × String) : Prop :=
  rules.isValue (bytesOf entry.2) = true

/-- Whether a header can be sent. -/
def Fits (entry : String × String) : Prop :=
  rules.NameFits entry ∧ rules.ValueFits entry

instance (entry : String × String) : Decidable (rules.NameFits entry) :=
  inferInstanceAs (Decidable (_ = true))

instance (entry : String × String) : Decidable (rules.ValueFits entry) :=
  inferInstanceAs (Decidable (_ = true))

instance (entry : String × String) : Decidable (rules.Fits entry) :=
  inferInstanceAs (Decidable (_ ∧ _))

/-- What is wrong with a header that cannot be sent. The name is looked at first. -/
def refusal (entry : String × String) : Failure :=
  if rules.NameFits entry then .invalidHeaderValue else .invalidHeaderName

theorem putHeader_eq (map : HeaderMap) (entry : String × String) :
    rules.putHeader map entry.1 entry.2 =
      if rules.Fits entry then .ok (map.append (lowerName entry) (bytesOf entry.2))
      else .error (rules.refusal entry) := by
  show (if rules.NameFits entry then
      if rules.ValueFits entry then Except.ok (map.append (lowerName entry) (bytesOf entry.2))
      else .error Failure.invalidHeaderValue
    else .error Failure.invalidHeaderName) = _
  rw [refusal]
  by_cases hname : rules.NameFits entry
  · by_cases hvalue : rules.ValueFits entry
    · rw [if_pos hname, if_pos hvalue, if_pos ⟨hname, hvalue⟩]
    · rw [if_pos hname, if_neg hvalue, if_neg fun h => hvalue h.2, if_pos hname]
  · rw [if_neg hname, if_neg fun h => hname h.1, if_neg hname]

variable {rules}

theorem putHeaders_append {front : List (String × String)} (h : ∀ entry ∈ front, rules.Fits entry)
    (map : HeaderMap) (rest : List (String × String)) :
    rules.putHeaders map (front ++ rest) = rules.putHeaders (map.appendAll front) rest := by
  induction front generalizing map with
  | nil => rfl
  | cons entry front ih =>
      obtain ⟨hentry, hfront⟩ := List.forall_mem_cons.1 h
      rw [List.cons_append, putHeaders, putHeader_eq, if_pos hentry]
      exact ih hfront _

theorem putHeaders_of_fits {entries : List (String × String)}
    (h : ∀ entry ∈ entries, rules.Fits entry) (map : HeaderMap) :
    rules.putHeaders map entries = (map.appendAll entries, .ok ()) := by
  have happend := putHeaders_append h map []
  rwa [List.append_nil] at happend

/-- The first header that does not fit stops those behind it. -/
theorem putHeaders_of_not_fits {front back : List (String × String)} {entry : String × String}
    (hfront : ∀ entry ∈ front, rules.Fits entry) (hentry : ¬rules.Fits entry) (map : HeaderMap) :
    rules.putHeaders map (front ++ entry :: back) =
      (map.appendAll front, .error (rules.refusal entry)) := by
  rw [putHeaders_append hfront, putHeaders, putHeader_eq, if_neg hentry]

theorem exists_first_not_fits {entries : List (String × String)}
    (h : ∃ entry ∈ entries, ¬rules.Fits entry) :
    ∃ front entry back, entries = front ++ entry :: back ∧ (∀ entry ∈ front, rules.Fits entry) ∧
      ¬rules.Fits entry := by
  induction entries with
  | nil =>
      obtain ⟨entry, hmem, -⟩ := h
      cases hmem
  | cons first entries ih =>
      by_cases hfirst : rules.Fits first
      · have hrest : ∃ entry ∈ entries, ¬rules.Fits entry := by
          obtain ⟨entry, hmem, hentry⟩ := h
          rcases List.mem_cons.1 hmem with rfl | hmem
          · exact absurd hfirst hentry
          · exact ⟨entry, hmem, hentry⟩
        obtain ⟨front, entry, back, rfl, hfront, hentry⟩ := ih hrest
        exact ⟨first :: front, entry, back, rfl, List.forall_mem_cons.2 ⟨hfirst, hfront⟩, hentry⟩
      · exact ⟨[], first, entries, rfl, by simp, hfirst⟩

end Rules

/-- The values of the headers with a name, in order. -/
def valuesOf (entries : List (String × String)) (name : String) : List String :=
  (entries.filter fun entry => lowerName entry == name).map Prod.snd

/-- Whether a map holds just these headers: their names in the order in which they first come, and
under each name its values in order. -/
structure Holds (entries : List (String × String)) (map : HeaderMap) : Prop where
  keys : map.keys = (entries.map lowerName).eraseDups
  values : ∀ name, (map.get? name).getD [] = (valuesOf entries name).map bytesOf

theorem Holds.append {entries : List (String × String)} {map : HeaderMap} (h : Holds entries map)
    (entry : String × String) :
    Holds (entries ++ [entry]) (map.append (lowerName entry) (bytesOf entry.2)) where
  keys := by
    rw [HeaderMap.append, Table.keys_put_eraseDups h.keys, List.map_append, List.map_singleton]
  values name := by
    rw [HeaderMap.append, Table.get?_put, valuesOf, List.filter_append, List.map_append,
      List.map_append]
    by_cases hname : name = lowerName entry
    · have hfilter : [entry].filter (fun entry => lowerName entry == name) = [entry] :=
        List.filter_cons_of_pos (beq_iff_eq.2 hname.symm)
      rw [if_pos hname, hfilter, ← hname, Option.getD_some, h.values]
      rfl
    · have hfilter : [entry].filter (fun entry => lowerName entry == name) = [] :=
        List.filter_cons_of_neg (mt beq_iff_eq.1 (Ne.symm hname))
      rw [if_neg hname, hfilter, h.values]
      exact (List.append_nil _).symm

theorem holds_appendAll (entries : List (String × String)) :
    Holds entries (appendAll Table.empty entries) := by
  induction entries using List.reverseRecOn with
  | nil => exact ⟨rfl, fun _ => rfl⟩
  | append_singleton entries entry ih =>
      rw [appendAll, List.foldl_append]
      exact ih.append entry

/-! ## Headers that come in -/

theorem map_fst_sublist (entries : List (String × List (List UInt8))) :
    ((entries.filterMap fun entry => (joined? entry.2).map fun value => (entry.1, value)).map
      Prod.fst).Sublist (entries.map Prod.fst) := by
  induction entries with
  | nil => exact List.Sublist.slnil
  | cons entry entries ih =>
      rw [List.filterMap_cons, List.map_cons]
      cases joined? entry.2 with
      | none => exact ih.cons entry.1
      | some value => exact ih.cons_cons entry.1

theorem entries_headers (map : HeaderMap) :
    map.headers.entries =
      map.entries.filterMap fun entry => (joined? entry.2).map fun value => (entry.1, value) := by
  have hnodup := (map_fst_sublist map.entries).nodup map.nodup_keys
  rw [headers, Table.ofList_of_nodup hnodup]

/-- The plain values of the headers with a name, in order. -/
def plainValues (entries : List (String × String)) (name : String) : List String :=
  (valuesOf entries name).filter isPlainText

theorem joined?_valuesOf (entries : List (String × String)) (name : String) :
    joined? ((valuesOf entries name).map bytesOf) =
      if plainValues entries name = [] then none
      else some (", ".intercalate (plainValues entries name)) := by
  have hread : ((valuesOf entries name).map bytesOf).filterMap readable? =
      plainValues entries name := by
    have hguard : readable? ∘ bytesOf = Option.guard isPlainText := funext readable?_bytesOf
    rw [List.filterMap_map, hguard, List.filterMap_eq_filter, plainValues]
  rw [joined?, hread]
  cases plainValues entries name with
  | nil => rfl
  | cons value values => rfl

/-- What comes back from a map that holds headers. -/
theorem Holds.entries_headers {entries : List (String × String)} {map : HeaderMap}
    (h : Holds entries map) :
    map.headers.entries =
      ((entries.map lowerName).eraseDups.filter fun name => plainValues entries name ≠ []).map
        fun name => (name, ", ".intercalate (plainValues entries name)) := by
  rw [HeaderMap.entries_headers, Table.entries_eq_map_keys map [], List.filterMap_map, h.keys]
  generalize (entries.map lowerName).eraseDups = names
  induction names with
  | nil => rfl
  | cons name names ih =>
      rw [List.filterMap_cons, Function.comp_apply, h.values, joined?_valuesOf, ih]
      by_cases hnone : plainValues entries name = []
      · rw [if_pos hnone, List.filter_cons_of_neg (by simp [hnone])]
        rfl
      · rw [if_neg hnone, List.filter_cons_of_pos (by simp [hnone])]
        rfl

/-! ### One value after the other -/

/-- The values of a map, each with its name. -/
def pairs (map : HeaderMap) : List (String × List UInt8) :=
  map.entries.flatMap fun entry => entry.2.map fun value => (entry.1, value)

/-- Adds a value that comes in to the headers: behind the values of its name, if it has any. -/
def collect (headers : Headers) (pair : String × List UInt8) : Headers :=
  match readable? pair.2 with
  | some value =>
      headers.put pair.1
        (match headers.get? pair.1 with
        | some before => before ++ ", " ++ value
        | none => value)
  | none => headers

theorem joined?_concat (values : List (List UInt8)) (value : List UInt8) :
    joined? (values ++ [value]) =
      match readable? value with
      | some text =>
          some (match joined? values with
          | some before => before ++ ", " ++ text
          | none => text)
      | none => joined? values := by
  rw [joined?, joined?, List.filterMap_append]
  cases hvalue : readable? value with
  | none =>
      have hnone : [value].filterMap readable? = [] := by simp [hvalue]
      rw [hnone, List.append_nil]
  | some text =>
      have hsome : [value].filterMap readable? = [text] := by simp [hvalue]
      rw [hsome]
      cases htexts : values.filterMap readable? with
      | nil => simp
      | cons first texts =>
          refine congrArg some ?_
          rw [String.intercalate_append_of_ne_nil (List.cons_ne_nil _ _) (List.cons_ne_nil _ _),
            String.intercalate_singleton]

/-- The values of a name that is new come together as one value. -/
theorem foldl_collect_values {headers : Headers} {name : String} (hname : name ∉ headers.keys)
    (values : List (List UInt8)) :
    (values.map fun value => (name, value)).foldl collect headers =
      match joined? values with
      | some text => headers.put name text
      | none => headers := by
  induction values using List.reverseRecOn with
  | nil => rfl
  | append_singleton values value ih =>
      rw [List.map_append, List.foldl_append, ih, List.map_singleton, List.foldl_cons,
        List.foldl_nil, collect, joined?_concat]
      cases readable? value with
      | none => rfl
      | some text =>
          cases joined? values with
          | none =>
              dsimp only
              rw [Table.get?_of_not_mem_keys hname]
          | some before =>
              dsimp only
              rw [Table.get?_put, if_pos rfl, Table.put_put]

theorem foldl_collect_entries (entries : List (String × List (List UInt8)))
    (headers : Headers)
    (h : (headers.keys ++ entries.map Prod.fst).Nodup) :
    (entries.flatMap fun entry => entry.2.map fun value => (entry.1, value)).foldl collect headers =
      (entries.filterMap fun entry => (joined? entry.2).map fun value => (entry.1, value)).foldl
        (fun headers entry => headers.put entry.1 entry.2) headers := by
  induction entries generalizing headers with
  | nil => rfl
  | cons entry entries ih =>
      have hname : entry.1 ∉ headers.keys := by
        intro hmem
        exact (List.nodup_append.1 h).2.2 _ hmem _ List.mem_cons_self rfl
      rw [List.flatMap_cons, List.foldl_append, foldl_collect_values hname, List.filterMap_cons]
      cases joined? entry.2 with
      | none =>
          refine ih headers (h.sublist ?_)
          exact List.Sublist.append_left (List.sublist_cons_self ..) _
      | some text =>
          refine ih _ ?_
          rwa [Table.keys_put_of_not_mem hname, List.append_assoc]

/-- The headers of a map are those that are collected from its values one after the other. -/
theorem headers_eq_foldl_collect (map : HeaderMap) :
    map.headers = map.pairs.foldl collect Table.empty :=
  (foldl_collect_entries map.entries Table.empty map.nodup_keys).symm

/-! ## There and back -/

/-- **Headers survive a header map.** Putting headers into an empty map fails just if one of them
does not fit. The failure is then that of the first one that does not, of its name or else of its
value, and the map holds those in front of it. If all fit, what comes back has one header for each
name in lower case that has a plain value, in the order in which names first come, with all such
values of the name in order and joined. The headers of any map are those that are collected from its
values one after the other. -/
theorem headers_survive (rules : Rules) (headers : Headers) :
    ((∃ failure, (rules.putHeaders Table.empty headers.entries).2 = .error failure) ↔
        ∃ entry ∈ headers.entries, ¬rules.Fits entry) ∧
      (∀ front entry back, headers.entries = front ++ entry :: back →
        (∀ entry ∈ front, rules.Fits entry) → ¬rules.Fits entry →
          ∃ map, rules.putHeaders Table.empty headers.entries =
              (map, .error (rules.refusal entry)) ∧
            Holds front map) ∧
      ((∀ entry ∈ headers.entries, rules.Fits entry) →
        ∃ map, rules.putHeaders Table.empty headers.entries = (map, .ok ()) ∧
          map.headers.entries =
            ((headers.entries.map lowerName).eraseDups.filter fun name =>
              plainValues headers.entries name ≠ []).map fun name =>
                (name, ", ".intercalate (plainValues headers.entries name))) ∧
      ∀ map : HeaderMap, map.headers = map.pairs.foldl collect Table.empty := by
  refine ⟨⟨?_, ?_⟩, ?_, ?_, headers_eq_foldl_collect⟩
  · rintro ⟨failure, hfailure⟩
    by_contra hall
    push Not at hall
    rw [Rules.putHeaders_of_fits hall] at hfailure
    cases hfailure
  · intro hexists
    obtain ⟨front, entry, back, hentries, hfront, hentry⟩ := Rules.exists_first_not_fits hexists
    rw [hentries, Rules.putHeaders_of_not_fits hfront hentry]
    exact ⟨_, rfl⟩
  · intro front entry back hentries hfront hentry
    rw [hentries]
    exact ⟨_, Rules.putHeaders_of_not_fits hfront hentry _, holds_appendAll front⟩
  · intro hall
    exact ⟨_, Rules.putHeaders_of_fits hall _, (holds_appendAll headers.entries).entries_headers⟩

/-- Two names that are one in lower case, where the first value cannot be read back, and a name that
cannot be sent behind one that can, by the rules of HTTP. -/
theorem headers_survive_in_either_case :
    (∃ map, putHeaders Table.empty [("A", "é"), ("B", "1"), ("a", "x")] = (map, .ok ()) ∧
      map.headers.entries = [("a", "x"), ("b", "1")]) ∧
    ∃ map, putHeaders Table.empty [("A", "x"), ("a b", "y"), ("C", "é")] =
        (map, .error .invalidHeaderName) ∧
      Holds [("A", "x")] map := by
  let sent : Headers := ⟨[("A", "é"), ("B", "1"), ("a", "x")], by decide⟩
  let refused : Headers := ⟨[("A", "x"), ("a b", "y"), ("C", "é")], by decide⟩
  have hsent : ∀ entry ∈ sent.entries, Rules.http.Fits entry := by decide +kernel
  have hfront : ∀ entry ∈ [("A", "x")], Rules.http.Fits entry := by decide +kernel
  have hname : ¬Rules.http.NameFits ("a b", "y") := by decide +kernel
  constructor
  · obtain ⟨map, hput, hentries⟩ := (headers_survive .http sent).2.2.1 hsent
    exact ⟨map, hput, hentries.trans (by decide +kernel)⟩
  · obtain ⟨map, hput, hholds⟩ :=
      (headers_survive .http refused).2.1 [("A", "x")] ("a b", "y") _ rfl hfront fun h => hname h.1
    rw [Rules.refusal, if_neg hname] at hput
    exact ⟨map, hput, hholds⟩

end HttpDoctest.HeaderMap
