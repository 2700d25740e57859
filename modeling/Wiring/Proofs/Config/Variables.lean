/-
# Wiring.Proofs.Config.Variables -- which key a process variable has, and which variable a key

Behind a prefix, capital letters, digits and underscores turn into small letters, digits and dots
one by one, and back, whatever the prefix is.

A process keeps each variable as one text: its name, an equals sign and its value.  A name has no
equals sign, except perhaps as its first character, so it can be told from the text (`nameIn`).  A
look-up takes the wanted name as it is, and finds the one variable whose text starts with that and
an equals sign (`get?_eq_some_iff`).  For what can be a name this is the variable of that name
(`get?_eq_some_iff_mem`).  A wanted name with an equals sign further on is no variable's, but may
be found in the text of another.

Main statement: `keys_match_variables`, with `found_unset` for a prefix that has an equals sign.
-/
import Wiring.Config.Source
import Wiring.Proofs.Keyed
import Mathlib.Data.List.TakeWhile

namespace Wiring.Config

set_option autoImplicit false

/-! ## Characters -/

/-- A capital letter, a digit or the underscore. -/
def NameChar (c : Char) : Prop := ('A' ≤ c ∧ c ≤ 'Z') ∨ ('0' ≤ c ∧ c ≤ '9') ∨ c = '_'

/-- A small letter, a digit or the dot. -/
def KeyChar (c : Char) : Prop := ('a' ≤ c ∧ c ≤ 'z') ∨ ('0' ≤ c ∧ c ≤ '9') ∨ c = '.'

instance (c : Char) : Decidable (NameChar c) := inferInstanceAs (Decidable (_ ∨ _))

instance (c : Char) : Decidable (KeyChar c) := inferInstanceAs (Decidable (_ ∨ _))

def toKeyChar (c : Char) : Char := if c = '_' then '.' else c.toLower

def toNameChar (c : Char) : Char := if c = '.' then '_' else c.toUpper

theorem ascii_of_le {c d : Char} (below : c ≤ d) (ascii : d.toNat < 128) : c.toNat < 128 := by
  rw [Char.le_def, UInt32.le_iff_toNat_le] at below
  exact Nat.lt_of_le_of_lt below ascii

theorem NameChar.ascii {c : Char} (char : NameChar c) : c.toNat < 128 := by
  rcases char with upper | digit | rfl
  · exact ascii_of_le upper.2 (by decide)
  · exact ascii_of_le digit.2 (by decide)
  · decide

theorem KeyChar.ascii {c : Char} (char : KeyChar c) : c.toNat < 128 := by
  rcases char with lower | digit | rfl
  · exact ascii_of_le lower.2 (by decide)
  · exact ascii_of_le digit.2 (by decide)
  · decide

/-- There are few enough ASCII characters to look at each. -/
theorem forall_ascii {P : Char → Prop} (all : ∀ n < 128, P (Char.ofNat n)) {c : Char}
    (ascii : c.toNat < 128) : P c := by
  rw [← Char.ofNat_toNat c]
  exact all _ ascii

theorem NameChar.keyChar {c : Char} (char : NameChar c) : KeyChar (toKeyChar c) :=
  forall_ascii (P := fun c => NameChar c → KeyChar (toKeyChar c)) (by decide) char.ascii char

theorem KeyChar.nameChar {c : Char} (char : KeyChar c) : NameChar (toNameChar c) :=
  forall_ascii (P := fun c => KeyChar c → NameChar (toNameChar c)) (by decide) char.ascii char

theorem NameChar.back {c : Char} (char : NameChar c) : toNameChar (toKeyChar c) = c :=
  forall_ascii (P := fun c => NameChar c → toNameChar (toKeyChar c) = c) (by decide) char.ascii char

theorem KeyChar.back {c : Char} (char : KeyChar c) : toKeyChar (toNameChar c) = c :=
  forall_ascii (P := fun c => KeyChar c → toKeyChar (toNameChar c) = c) (by decide) char.ascii char

/-! ## Names and keys -/

variable {lead name key value s t : String} {vs : Variables}

theorem map_eq_self {f : Char → Char} (fixed : ∀ c ∈ s.toList, f c = c) : s.map f = s := by
  apply String.toList_inj.1
  rw [String.toList_map, List.map_congr_left fixed, List.map_id']

theorem forall_mem_map {P Q : Char → Prop} {f : Char → Char} (turns : ∀ c, P c → Q (f c))
    (all : ∀ c ∈ s.toList, P c) : ∀ c ∈ (s.map f).toList, Q c := by
  rw [String.toList_map]
  intro c mem
  obtain ⟨d, there, rfl⟩ := List.mem_map.1 mem
  exact turns d (all d there)

theorem stripLead?_append (lead s : String) :
    stripLead? lead.toList (lead ++ s).toList = some s.toList :=
  stripLead?_eq_some_iff.2 String.toList_append

/-- The key of a variable whose name goes on in ASCII behind the prefix. -/
theorem keyOfVariable_append (lead : String) (ascii : ∀ c ∈ s.toList, c.toNat < 128) :
    keyOfVariable lead (lead ++ s) = s.map toKeyChar := by
  have turned : ∀ c ∈ s.toList, (if c.toLower == '_' then '.' else c.toLower) = toKeyChar c := by
    intro c mem
    exact forall_ascii (P := fun c => (if c.toLower == '_' then '.' else c.toLower) = toKeyChar c)
      (by decide) (ascii c mem)
  apply String.toList_inj.1
  rw [keyOfVariable, stripLead?_append, Option.getD_some, Text.lowercase_of_ascii ascii,
    String.toList_ofList, String.toList_map, replaceChar, List.map_map]
  exact List.map_congr_left turned

/-- The variable of an ASCII key. -/
theorem variableOfKey_of_ascii (lead : String) (ascii : ∀ c ∈ key.toList, c.toNat < 128) :
    variableOfKey lead key = lead ++ key.map toNameChar := by
  have still : ∀ c ∈ replaceChar '.' '_' key.toList, c.toNat < 128 := by
    intro c mem
    obtain ⟨d, there, rfl⟩ := List.mem_map.1 mem
    by_cases dot : d = '.'
    · simp [dot]
    · simpa [dot] using ascii d there
  have turned : ∀ c ∈ key.toList, (if c == '.' then '_' else c).toUpper = toNameChar c := by
    intro c _
    by_cases dot : c = '.'
    · simp [toNameChar, dot]
    · simp [toNameChar, dot]
  apply congrArg (lead ++ ·)
  apply String.toList_inj.1
  rw [Text.uppercase_of_ascii still, String.toList_ofList, String.toList_map, replaceChar,
    List.map_map]
  exact List.map_congr_left turned

theorem map_back (chars : ∀ c ∈ s.toList, NameChar c) : (s.map toKeyChar).map toNameChar = s := by
  rw [String.map_map]
  exact map_eq_self fun c mem => (chars c mem).back

/-- **From a variable to its key and back.** -/
theorem variableOfKey_map (lead : String) (chars : ∀ c ∈ s.toList, NameChar c) :
    variableOfKey lead (s.map toKeyChar) = lead ++ s := by
  have keyed := forall_mem_map (fun _ => NameChar.keyChar) chars
  rw [variableOfKey_of_ascii lead fun c mem => (keyed c mem).ascii, map_back chars]

/-- **From a key to its variable and back.** -/
theorem keyOfVariable_variableOfKey (lead : String) (chars : ∀ c ∈ key.toList, KeyChar c) :
    keyOfVariable lead (variableOfKey lead key) = key := by
  have named := forall_mem_map (fun _ => KeyChar.nameChar) chars
  rw [variableOfKey_of_ascii lead fun c mem => (chars c mem).ascii,
    keyOfVariable_append lead fun c mem => (named c mem).ascii, String.map_map]
  exact map_eq_self fun c mem => (chars c mem).back

/-! ## What a process keeps -/

/-- What a variable can be called: anything but nothing, with no equals sign behind the first
character. -/
def Nameable (name : String) : Prop := name ≠ "" ∧ '=' ∉ name.toList.tail

instance (name : String) : Decidable (Nameable name) := inferInstanceAs (Decidable (_ ∧ _))

/-- What the variables of a process are: no two have the same name, and each can be called so. -/
structure Variables.Proper (vs : Variables) : Prop where
  nameable : ∀ name ∈ vs.map (·.1), Nameable name
  distinct : (vs.map (·.1)).Nodup

/-- The name in the text of a variable: all up to an equals sign that is not its first character. -/
def nameIn : List Char → List Char
  | [] => []
  | c :: cs => c :: cs.takeWhile (· != '=')

/-- What is behind an equals sign makes no difference to the name in front. -/
theorem nameIn_append {cs : List Char} (nonempty : cs ≠ []) (rest : List Char) :
    nameIn (cs ++ '=' :: rest) = nameIn cs := by
  obtain ⟨c, cs, rfl⟩ := List.exists_cons_of_ne_nil nonempty
  have front : (cs ++ '=' :: rest).takeWhile (· != '=') = cs.takeWhile (· != '=') := by
    rw [List.takeWhile_append]
    -- What is wanted may have an equals sign of its own, and the name ends there then.
    by_cases whole : (cs.takeWhile (· != '=')).length = cs.length
    · have same := (List.takeWhile_prefix (· != '=')).eq_of_length whole
      simp [same]
    · rw [if_neg whole]
  rw [List.cons_append, nameIn, nameIn, front]

theorem Nameable.nameIn (nameable : Nameable name) : nameIn name.toList = name.toList := by
  obtain ⟨c, cs, same⟩ := List.exists_cons_of_ne_nil (mt String.toList_eq_nil_iff.1 nameable.1)
  have free : '=' ∉ cs := by simpa [same] using nameable.2
  rw [same, Config.nameIn, List.takeWhile_eq_self_iff.2]
  intro c mem
  simpa using ne_of_mem_of_not_mem mem free

/-- **The name of a variable can be told from any part of its text that ends with an equals
sign.** -/
theorem Nameable.eq_nameIn {wanted : String} {rest : List Char} (nameable : Nameable name)
    (nonempty : wanted ≠ "")
    (same : name.toList ++ '=' :: value.toList = wanted.toList ++ '=' :: rest) :
    name.toList = Config.nameIn wanted.toList := by
  calc name.toList = Config.nameIn name.toList := nameable.nameIn.symm
    _ = Config.nameIn (name.toList ++ '=' :: value.toList) :=
      (nameIn_append (mt String.toList_eq_nil_iff.1 nameable.1) _).symm
    _ = Config.nameIn (wanted.toList ++ '=' :: rest) := by rw [same]
    _ = Config.nameIn wanted.toList := nameIn_append (mt String.toList_eq_nil_iff.1 nonempty) _

namespace Variables.Proper

/-- Setting a variable, whether it was set before or not, leaves no name twice. -/
theorem put (proper : vs.Proper) (nameable : Nameable name) (value : String) :
    Variables.Proper (Keyed.put vs name value) := by
  refine ⟨?_, Keyed.nodup_put proper.distinct name value⟩
  intro other mem
  by_cases there : name ∈ vs.map (·.1)
  · rw [Keyed.keys_put_of_mem there] at mem
    exact proper.nameable other mem
  · rw [Keyed.put_of_notMem there, List.map_append] at mem
    rcases List.mem_append.1 mem with mem | mem
    · exact proper.nameable other mem
    · simp only [List.map_cons, List.map_nil, List.mem_singleton] at mem
      rwa [mem]

/-- Whatever is set, one after the other, the variables are those that a process can have. -/
theorem ofList {settings : List (String × String)} (nameable : ∀ v ∈ settings, Nameable v.1) :
    Variables.Proper (Keyed.ofList settings) := by
  have run : ∀ (vs : Variables), vs.Proper →
      Variables.Proper (settings.foldl (fun acc v => Keyed.put acc v.1 v.2) vs) := by
    induction settings with
    | nil => exact fun vs proper => proper
    | cons v rest ih =>
      obtain ⟨first, later⟩ := List.forall_mem_cons.1 nameable
      exact fun vs proper => ih later _ (proper.put first v.2)
  exact run [] ⟨by simp, by simp⟩

/-- At most one variable has a text that starts with what is wanted and an equals sign. -/
theorem unique (proper : vs.Proper) {v w : String × String} (mem : v ∈ vs) (mem' : w ∈ vs)
    (nonempty : name ≠ "") {rest rest' : List Char}
    (same : v.1.toList ++ '=' :: v.2.toList = name.toList ++ '=' :: rest)
    (same' : w.1.toList ++ '=' :: w.2.toList = name.toList ++ '=' :: rest') : v = w := by
  apply List.inj_on_of_nodup_map proper.distinct mem mem'
  apply String.toList_inj.1
  have first := (proper.nameable v.1 (List.mem_map_of_mem mem)).eq_nameIn nonempty same
  have second := (proper.nameable w.1 (List.mem_map_of_mem mem')).eq_nameIn nonempty same'
  exact first.trans second.symm

end Variables.Proper

/-! ## Looking up -/

/-- What the text of a variable says behind a name and an equals sign. -/
def saidUnder (name : String) (v : String × String) : Option String :=
  (stripLead? (name.toList ++ ['=']) (v.1.toList ++ '=' :: v.2.toList)).map String.ofList

theorem saidUnder_eq_some_iff {v : String × String} : saidUnder name v = some value ↔
    v.1.toList ++ '=' :: v.2.toList = name.toList ++ '=' :: value.toList := by
  rw [saidUnder, Option.map_eq_some_iff]
  constructor
  · rintro ⟨rest, stripped, rfl⟩
    simpa using stripLead?_eq_some_iff.1 stripped
  · intro same
    refine ⟨value.toList, stripLead?_eq_some_iff.2 ?_, String.ofList_toList⟩
    simpa using same

theorem get?_of_nonempty (vs : Variables) (nonempty : name ≠ "") :
    vs.get? name = vs.findSome? (saidUnder name) := by
  have filled : ¬name.isEmpty = true := by simpa [String.isEmpty_iff] using nonempty
  rw [Variables.get?, if_neg filled]
  rfl

/-- **A look-up finds what stands in the text of a variable behind the wanted name and an equals
sign**, whether or not this is the whole name. -/
theorem get?_eq_some_iff (proper : vs.Proper) : vs.get? name = some value ↔
    name ≠ "" ∧ ∃ v ∈ vs, v.1 ++ "=" ++ v.2 = name ++ "=" ++ value := by
  have text (v : String × String) :
      v.1 ++ "=" ++ v.2 = name ++ "=" ++ value ↔ saidUnder name v = some value := by
    rw [saidUnder_eq_some_iff, ← String.toList_inj]
    simp
  simp only [text]
  by_cases empty : name = ""
  · simp [Variables.get?, empty]
  · rw [get?_of_nonempty vs empty]
    constructor
    · intro found
      exact ⟨empty, List.exists_of_findSome?_eq_some found⟩
    · rintro ⟨_, v, mem, here⟩
      have found : (vs.findSome? (saidUnder name)).isSome := by
        apply List.findSome?_isSome_iff.2
        exact ⟨v, mem, by simp [here]⟩
      obtain ⟨other, found⟩ := Option.isSome_iff_exists.1 found
      obtain ⟨w, mem', there⟩ := List.exists_of_findSome?_eq_some found
      -- Which of the variables comes first makes no difference: only one has such a text.
      obtain rfl := proper.unique mem mem' empty (saidUnder_eq_some_iff.1 here)
        (saidUnder_eq_some_iff.1 there)
      rw [found, ← there, here]

/-- **A look-up under what can be a name finds the variable of that name.** -/
theorem get?_eq_some_iff_mem (proper : vs.Proper) (nameable : Nameable name) :
    vs.get? name = some value ↔ (name, value) ∈ vs := by
  rw [get?_eq_some_iff proper]
  constructor
  · rintro ⟨nonempty, ⟨other, value'⟩, mem, same⟩
    have same : other.toList ++ '=' :: value'.toList = name.toList ++ '=' :: value.toList := by
      simpa using congrArg String.toList same
    have known : other = name := by
      apply String.toList_inj.1
      have here := proper.nameable other (List.mem_map_of_mem mem)
      rw [here.eq_nameIn nonempty same, nameable.nameIn]
    subst known
    obtain rfl : value' = value := by simpa [String.toList_inj] using same
    exact mem
  · intro mem
    exact ⟨nameable.1, _, mem, rfl⟩

theorem isSome_get?_iff (proper : vs.Proper) (nameable : name ≠ "" → Nameable name) :
    (vs.get? name).isSome ↔ name ∈ vs.map (·.1) := by
  rw [Option.isSome_iff_exists]
  constructor
  · rintro ⟨value, found⟩
    have nonempty := ((get?_eq_some_iff proper).1 found).1
    exact List.mem_map_of_mem ((get?_eq_some_iff_mem proper (nameable nonempty)).1 found)
  · intro set
    obtain ⟨v, mem, rfl⟩ := List.mem_map.1 set
    exact ⟨v.2, (get?_eq_some_iff_mem proper (proper.nameable v.1 set)).2 mem⟩

/-! ## The source of process variables -/

/-- Behind a prefix that could itself begin a name, a name goes on as one. -/
theorem nameable_append (free : '=' ∉ lead.toList.tail) (chars : ∀ c ∈ s.toList, NameChar c)
    (nonempty : lead ++ s ≠ "") : Nameable (lead ++ s) := by
  have none : '=' ∉ s.toList := by
    intro mem
    exact absurd (chars _ mem) (by decide)
  refine ⟨nonempty, ?_⟩
  rw [String.toList_append]
  cases front : lead.toList with
  | nil =>
    intro mem
    exact none (List.mem_of_mem_tail mem)
  | cons c cs =>
    rw [front] at free
    simpa using ⟨free, none⟩

theorem mem_keys (priority : Int) (mem : (lead ++ s, value) ∈ vs) :
    keyOfVariable lead (lead ++ s) ∈ (Source.ofVariables lead vs priority).keys := by
  apply List.mem_map.2
  refine ⟨(lead ++ s, value), List.mem_filter.2 ⟨mem, ?_⟩, rfl⟩
  show (stripLead? lead.toList (lead ++ s).toList).isSome = true
  rw [stripLead?_append]
  rfl

theorem get?_ofVariables_eq_some_iff {priority : Int} {found : Value} :
    (Source.ofVariables lead vs priority).get? key = some found ↔
      ∃ text, found = .text text ∧ vs.get? (variableOfKey lead key) = some text := by
  show (vs.get? (variableOfKey lead key)).map Value.text = some found ↔ _
  rw [Option.map_eq_some_iff]
  constructor
  · rintro ⟨text, here, rfl⟩
    exact ⟨text, rfl, here⟩
  · rintro ⟨text, rfl, here⟩
    exact ⟨text, here, rfl⟩

/-- **Process variables have keys, and keys have variables.**  Whatever the prefix is, a variable
whose name goes on behind it in capital letters, digits and underscores is listed under the rest of
its name in lower case, with dots for the underscores, and is found under that key; no two of these
have the same key.

A key of small letters, digits and dots is the key of its variable.  What it has is what stands
behind the name of that variable and an equals sign in the text of some variable.  Where the prefix
has no equals sign but as its first character, it has a value if and only if its variable is
set. -/
theorem keys_match_variables (proper : vs.Proper) (lead : String) (priority : Int) :
    (∀ s value, (∀ c ∈ s.toList, NameChar c) → (lead ++ s, value) ∈ vs →
      keyOfVariable lead (lead ++ s) = s.map toKeyChar ∧
        s.map toKeyChar ∈ (Source.ofVariables lead vs priority).keys ∧
        (Source.ofVariables lead vs priority).get? (s.map toKeyChar) = some (.text value)) ∧
    (∀ s t, (∀ c ∈ s.toList, NameChar c) → (∀ c ∈ t.toList, NameChar c) → s ≠ t →
      keyOfVariable lead (lead ++ s) ≠ keyOfVariable lead (lead ++ t)) ∧
    ∀ key, (∀ c ∈ key.toList, KeyChar c) →
      keyOfVariable lead (variableOfKey lead key) = key ∧
        (∀ found, (Source.ofVariables lead vs priority).get? key = some found ↔
          ∃ text, found = .text text ∧ variableOfKey lead key ≠ "" ∧
            ∃ v ∈ vs, v.1 ++ "=" ++ v.2 = variableOfKey lead key ++ "=" ++ text) ∧
        ('=' ∉ lead.toList.tail →
          (((Source.ofVariables lead vs priority).get? key).isSome ↔
            variableOfKey lead key ∈ vs.map (·.1))) := by
  refine ⟨?_, ?_, ?_⟩
  · intro s value chars mem
    have keyed := keyOfVariable_append lead fun c mem => (chars c mem).ascii
    refine ⟨keyed, keyed ▸ mem_keys priority mem, ?_⟩
    apply get?_ofVariables_eq_some_iff.2
    refine ⟨value, rfl, ?_⟩
    rw [variableOfKey_map lead chars]
    apply (get?_eq_some_iff_mem proper _).2 mem
    exact proper.nameable _ (List.mem_map_of_mem mem)
  · intro s t chars chars' differ same
    apply differ
    rw [keyOfVariable_append lead fun c mem => (chars c mem).ascii,
      keyOfVariable_append lead fun c mem => (chars' c mem).ascii] at same
    rw [← map_back chars, same, map_back chars']
  · intro key chars
    refine ⟨keyOfVariable_variableOfKey lead chars, ?_, ?_⟩
    · intro found
      rw [get?_ofVariables_eq_some_iff]
      simp only [get?_eq_some_iff proper]
    · intro free
      show ((vs.get? (variableOfKey lead key)).map Value.text).isSome = true ↔ _
      rw [Option.isSome_map, isSome_get?_iff proper]
      rw [variableOfKey_of_ascii lead fun c mem => (chars c mem).ascii]
      exact nameable_append free (forall_mem_map (fun _ => KeyChar.nameChar) chars)

/-- The prefix has small letters and a dot, one name goes on like it, and one ends with it. -/
theorem keys_match_variables_repeated :
    let vs : Variables := Keyed.ofList
      [("my.app_MY_APP_PORT", "80"), ("my.app_", "plain"), ("my.app___9", "nine"), ("PORT", "x=y")]
    vs.Proper ∧ '=' ∉ "my.app_".toList.tail ∧
      (∀ c ∈ "MY_APP_PORT".toList, NameChar c) ∧ ("my.app_" ++ "MY_APP_PORT", "80") ∈ vs ∧
      (Source.ofVariables "my.app_" vs 100).get? "my.app.port" = some (.text "80") ∧
      (Source.ofVariables "my.app_" vs 100).get? "..9" = some (.text "nine") ∧
      "" ∈ (Source.ofVariables "my.app_" vs 100).keys ∧
      keyOfVariable "my.app_" (variableOfKey "my.app_" "log.level") = "log.level" ∧
      ((Source.ofVariables "my.app_" vs 100).get? "log.level").isSome = false := by
  intro vs
  have proper : vs.Proper := Variables.Proper.ofList (by decide)
  have free : '=' ∉ "my.app_".toList.tail := by decide
  have keyed {name key : String} (same : name.toList.map toKeyChar = key.toList) :
      name.map toKeyChar = key := by
    rw [← String.toList_inj, String.toList_map, same]
  obtain ⟨found, -, back⟩ := keys_match_variables proper "my.app_" 100
  have chars : ∀ c ∈ "MY_APP_PORT".toList, NameChar c := by simp [NameChar]
  have keyChars : ∀ c ∈ "log.level".toList, KeyChar c := by simp [KeyChar]
  refine ⟨proper, free, chars, by decide, ?_, ?_, ?_, ?_, ?_⟩
  · have port : "MY_APP_PORT".map toKeyChar = "my.app.port" := keyed (by decide)
    rw [← port]
    exact (found "MY_APP_PORT" "80" chars (by decide)).2.2
  · have nine : "__9".map toKeyChar = "..9" := keyed (by decide)
    rw [← nine]
    exact (found "__9" "nine" (by simp [NameChar]) (by decide)).2.2
  · have plain : "".map toKeyChar = "" := keyed (by decide)
    rw [← plain]
    exact (found "" "plain" (by simp) (by decide)).2.1
  · exact (back "log.level" keyChars).1
  · have unset := (back "log.level" keyChars).2.2 free
    rw [Bool.eq_false_iff, ne_eq, unset]
    decide

/-- Under a prefix with an equals sign a key has a value though the variable that it stands for is
not set, and cannot be. -/
theorem found_unset :
    let vs : Variables := [("WEAVE_OPTIONS", "PORT=80")]
    vs.Proper ∧ (∀ c ∈ "port".toList, KeyChar c) ∧
      variableOfKey "WEAVE_OPTIONS=" "port" = "WEAVE_OPTIONS=PORT" ∧
      "WEAVE_OPTIONS=PORT" ∉ vs.map (·.1) ∧
      (Source.ofVariables "WEAVE_OPTIONS=" vs Source.variablePriority).get? "port" =
        some (.text "80") := by
  intro vs
  refine ⟨⟨by decide, by decide⟩, by simp [KeyChar], by decide, by decide, ?_⟩
  have said : vs.get? (variableOfKey "WEAVE_OPTIONS=" "port") = some "80" := by decide
  exact congrArg (Option.map Value.text) said

end Wiring.Config
