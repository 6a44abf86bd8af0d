import VdiWrapper.Lib.JsonUtf8
import VdiWrapper.MetricsJson

/-!
# `environment_to_json`

The strings of an `EnvironmentInfo` come from the registry and go into the text as they are.  They
are lists of bytes here, and a JSON document is a text in UTF-8; `\x7b` and `\x7d` are the braces.
-/

namespace Vdi

open Json Utf8

/-- `struct EnvironmentInfo` -/
structure EnvironmentInfo where
  osName : List UInt8
  osVersion : List UInt8
  cpuModel : List UInt8
  cpuCoreCount : UInt32
  ramBytes : UInt64
  sqlVersion : List UInt8
deriving DecidableEq

/-- A string literal. -/
def bytes (s : String) : List UInt8 := encode s.toList

/-- `std::to_string` -/
def toStringBytes (n : Nat) : List UInt8 := encode (Nat.toDigits 10 n)

namespace EnvironmentInfo

/-- `environment_to_json` -/
def environmentToJson (env : EnvironmentInfo) : List UInt8 :=
  [bytes "  \"environment\": \x7b\n",
    bytes "    \"os_name\": \"", env.osName, bytes "\",\n",
    bytes "    \"os_version\": \"", env.osVersion, bytes "\",\n",
    bytes "    \"cpu_model\": \"", env.cpuModel, bytes "\",\n",
    bytes "    \"cpu_core_count\": ", toStringBytes env.cpuCoreCount.toNat, bytes ",\n",
    bytes "    \"ram_bytes\": ", toStringBytes env.ramBytes.toNat, bytes ",\n",
    bytes "    \"sql_version\": \"", env.sqlVersion, bytes "\",\n",
    bytes "    \"tool_version\": \"", bytes vdiWrapperVersionString, bytes "\"\n",
    bytes "  \x7d"].flatten

/-- The text that is to be a document. -/
def document (env : EnvironmentInfo) : List UInt8 :=
  bytes "\x7b" ++ (env.environmentToJson ++ bytes "\x7d")

/-- The members of the environment object, with the strings as texts. -/
def members (env : EnvironmentInfo) (osName osVersion cpuModel sqlVersion : List Char) :
    List (List Char × Value) :=
  [("os_name".toList, .string osName),
    ("os_version".toList, .string osVersion),
    ("cpu_model".toList, .string cpuModel),
    ("cpu_core_count".toList, .number env.cpuCoreCount.toNat),
    ("ram_bytes".toList, .number env.ramBytes.toNat),
    ("sql_version".toList, .string sqlVersion),
    ("tool_version".toList, .string vdiWrapperVersionString.toList)]

/-- The value has one member, an object of exactly the fields of `env` and the version of the tool,
in any order. -/
def Decodes (env : EnvironmentInfo) (v : Value) : Prop :=
  ∃ osName osVersion cpuModel sqlVersion ms,
    v = .object [("environment".toList, .object ms)] ∧
      ms.Perm (env.members osName osVersion cpuModel sqlVersion) ∧
      encode osName = env.osName ∧ encode osVersion = env.osVersion ∧
      encode cpuModel = env.cpuModel ∧ encode sqlVersion = env.sqlVersion

/-- The document is one and decodes to the fields. -/
def RoundTrips (env : EnvironmentInfo) : Prop :=
  ∃ text v, encode text = env.document ∧ Document text v ∧ env.Decodes v

end EnvironmentInfo

/-- UTF-8 without control characters, quotes and backslashes. -/
structure CleanString (s : List UInt8) : Prop where
  utf8 : ∃ text, encode text = s
  clean : ∀ b ∈ s, 0x20 ≤ b ∧ b ≠ 0x22 ∧ b ≠ 0x5c

/-- Every string is clean. -/
structure EnvironmentInfo.Clean (env : EnvironmentInfo) : Prop where
  osName : CleanString env.osName
  osVersion : CleanString env.osVersion
  cpuModel : CleanString env.cpuModel
  sqlVersion : CleanString env.sqlVersion

/-! ## Clean strings -/

theorem unescaped_iff {c : Char} :
    unescaped c = true ↔ 32 ≤ c.toNat ∧ c.toNat ≠ 34 ∧ c.toNat ≠ 92 := by
  have hquote : c = '"' ↔ c.toNat = 34 := Char.toNat_inj.symm
  have hbackslash : c = '\\' ↔ c.toNat = 92 := Char.toNat_inj.symm
  simp [unescaped, hquote, hbackslash, and_assoc]

theorem cleanByte_iff {b : UInt8} :
    (0x20 ≤ b ∧ b ≠ 0x22 ∧ b ≠ 0x5c) ↔ 32 ≤ b.toNat ∧ b.toNat ≠ 34 ∧ b.toNat ≠ 92 := by
  have hquote : b = 0x22 ↔ b.toNat = 34 := UInt8.toNat_inj.symm
  have hbackslash : b = 0x5c ↔ b.toNat = 92 := UInt8.toNat_inj.symm
  have hspace : 0x20 ≤ b ↔ 32 ≤ b.toNat := UInt8.le_iff_toNat_le
  rw [hspace, ne_eq, hquote, ne_eq, hbackslash]

/-- What is left alone between quotes is what has no byte to be escaped. -/
theorem cleanString_iff {s : List UInt8} :
    CleanString s ↔ ∃ text, Plain text ∧ encode text = s := by
  constructor
  · intro ⟨⟨text, htext⟩, hclean⟩
    refine ⟨text, ?_, htext⟩
    intro c hc
    rw [unescaped_iff]
    by_cases hascii : c.toNat < 0x80
    · have hbyte := cleanByte_iff.mp (hclean _ (htext ▸ mem_encode hc hascii))
      rwa [UInt8.toNat_ofNat', Nat.mod_eq_of_lt (by omega)] at hbyte
    · omega
  · intro ⟨text, hplain, htext⟩
    refine ⟨⟨text, htext⟩, ?_⟩
    intro b hb
    rw [cleanByte_iff]
    by_cases hascii : b.toNat < 0x80
    · obtain ⟨c, hc, hcode⟩ := mem_of_mem_encode (htext ▸ hb) hascii
      rw [← hcode]
      exact unescaped_iff.mp (hplain c hc)
    · omega

theorem CleanString.quote_notMem {s : List UInt8} (h : CleanString s) : (0x22 : UInt8) ∉ s := by
  intro hmem
  exact (h.clean _ hmem).2.1 rfl

/-! ## A clean environment -/

namespace EnvironmentInfo

variable {env : EnvironmentInfo} {osName osVersion cpuModel sqlVersion : List Char}

/-- A string between quotes. -/
def quotedText (s : List Char) : List Char := '"' :: (s ++ ['"'])

/-- The members, as they are printed. -/
def printedMembers (env : EnvironmentInfo) (osName osVersion cpuModel sqlVersion : List Char) :
    List (List Char × List Char) :=
  [("os_name".toList, quotedText osName),
    ("os_version".toList, quotedText osVersion),
    ("cpu_model".toList, quotedText cpuModel),
    ("cpu_core_count".toList, Nat.toDigits 10 env.cpuCoreCount.toNat),
    ("ram_bytes".toList, Nat.toDigits 10 env.ramBytes.toNat),
    ("sql_version".toList, quotedText sqlVersion),
    ("tool_version".toList, quotedText vdiWrapperVersionString.toList)]

/-- The document as a text. -/
def documentText (env : EnvironmentInfo) (osName osVersion cpuModel sqlVersion : List Char) :
    List Char :=
  layObject [' ', ' '] []
    [("environment".toList, layObject (newline 4) (newline 2)
      (env.printedMembers osName osVersion cpuModel sqlVersion))]

set_option maxRecDepth 2000 in
theorem encode_documentText (hosName : encode osName = env.osName)
    (hosVersion : encode osVersion = env.osVersion) (hcpuModel : encode cpuModel = env.cpuModel)
    (hsqlVersion : encode sqlVersion = env.sqlVersion) :
    encode (env.documentText osName osVersion cpuModel sqlVersion) = env.document := by
  unfold document environmentToJson bytes toStringBytes
  rw [← hosName, ← hosVersion, ← hcpuModel, ← hsqlVersion]
  simp only [← encode_append, List.flatten_cons, List.flatten_nil, List.append_nil]
  apply congrArg encode
  simp [documentText, printedMembers, quotedText, layObject, layMembers, newline]

theorem stringDenotes (key : String) {s : List Char} (h : Plain s) (hplain : Plain key.toList) :
    MemberDenotes (key.toList, quotedText s) (key.toList, .string s) :=
  memberDenotes key (.string h.chars) hplain

theorem document_documentText (hosName : Plain osName) (hosVersion : Plain osVersion)
    (hcpuModel : Plain cpuModel) (hsqlVersion : Plain sqlVersion) :
    Document (env.documentText osName osVersion cpuModel sqlVersion)
      (.object [("environment".toList,
        .object (env.members osName osVersion cpuModel sqlVersion))]) := by
  have hmembers : List.Forall₂ MemberDenotes
      (env.printedMembers osName osVersion cpuModel sqlVersion)
      (env.members osName osVersion cpuModel sqlVersion) :=
    .cons (stringDenotes "os_name" hosName (by decide))
      (.cons (stringDenotes "os_version" hosVersion (by decide))
        (.cons (stringDenotes "cpu_model" hcpuModel (by decide))
          (.cons (memberDenotes "cpu_core_count" (denotes_toDigits _) (by decide))
            (.cons (memberDenotes "ram_bytes" (denotes_toDigits _) (by decide))
              (.cons (stringDenotes "sql_version" hsqlVersion (by decide))
                (.cons (stringDenotes "tool_version" (by decide) (by decide)) .nil))))))
  have henvironment := denotes_layObject (space_newline 4) (space_newline 2) hmembers
    (by simp [printedMembers])
  have hblanks : Space [' ', ' '] := by simp [Space, isSpace]
  have hnone : Space [] := by simp [Space]
  have hdocument := denotes_layObject hblanks hnone
    (.cons (memberDenotes "environment" henvironment (by decide)) .nil) (by simp)
  exact hdocument.document

theorem Clean.roundTrips (h : env.Clean) : env.RoundTrips := by
  obtain ⟨osName, hosName, heosName⟩ := cleanString_iff.mp h.osName
  obtain ⟨osVersion, hosVersion, heosVersion⟩ := cleanString_iff.mp h.osVersion
  obtain ⟨cpuModel, hcpuModel, hecpuModel⟩ := cleanString_iff.mp h.cpuModel
  obtain ⟨sqlVersion, hsqlVersion, hesqlVersion⟩ := cleanString_iff.mp h.sqlVersion
  exact ⟨_, _, encode_documentText heosName heosVersion hecpuModel hesqlVersion,
    document_documentText hosName hosVersion hcpuModel hsqlVersion,
    osName, osVersion, cpuModel, sqlVersion, _, rfl, .refl _, heosName, heosVersion, hecpuModel,
    hesqlVersion⟩

/-! ## An environment that round-trips -/

/-- Behind a member and a comma the object goes on. -/
theorem members_of_comma {n : Nat} {s r : List Char} {ms : List (List Char × Value)}
    (h : skipSpace (',' :: s) = '}' :: r ∧ ms = [] ∨
      ∃ s', skipSpace (',' :: s) = ',' :: s' ∧ Json.members n s' = some (ms, r)) :
    Json.members n s = some (ms, r) := by
  have hskip : skipSpace (',' :: s) = ',' :: s :=
    skipSpace_append (w := []) (by simp [Space]) (stops_cons (by decide))
  rw [hskip] at h
  rcases h with ⟨hbrace, _⟩ | ⟨s', hs', hmembers⟩
  · cases hbrace
  · cases hs'
    exact hmembers

/-- A member is no closing brace. -/
theorem skipSpace_quote {w x : List Char} (hw : Space w) :
    (skipSpace (w ++ '"' :: x)).head? ≠ some '}' := by
  rw [skipSpace_append hw (stops_cons (by decide))]
  simp

/-- Reading a line of the template with a string: if its member has the value of the field, the
field is clean and the reading goes on at the next line. -/
theorem string_step {n : Nat} {head : String} (key : String) {t r : List Char}
    {field rest : List UInt8} {ms : List (List Char × Value)} (hkey : Plain key.toList)
    (hhead : ∀ x, '\n' :: (head.toList ++ x) =
      newline 4 ++ '"' :: (key.toList ++ '"' :: ':' :: ' ' :: '"' :: x))
    (h : Json.members n ('\n' :: t) = some (ms, r))
    (hencode : encode t = bytes head ++ (field ++ (bytes "\",\n" ++ rest)))
    (hvalue : ∀ v, (key.toList, v) ∈ ms → ∃ s, v = .string s ∧ encode s = field) :
    CleanString field ∧ ∃ n' ms' t', Json.members n' ('\n' :: t') = some (ms', r) ∧
      encode t' = rest ∧ ms' ⊆ ms := by
  obtain ⟨x, rfl, hx⟩ := exists_of_encode_append hencode
  rw [hhead] at h
  obtain ⟨n', v, s, ms', hread, rfl, hrest⟩ :=
    of_members_eq (space_newline 4) hkey.chars (stops_cons (by decide)) h
  obtain ⟨u, d, rfl, hchars, rfl⟩ := of_value_quote hread
  obtain ⟨d', hd', hfield⟩ := hvalue _ List.mem_cons_self
  cases hd'
  rw [← hfield, encode_append] at hx
  obtain ⟨rfl, hplain, hs⟩ := hchars.aligned hx
  obtain ⟨t', rfl, ht'⟩ := exists_of_encode_append (s := [',', '\n']) hs
  refine ⟨cleanString_iff.mpr ⟨u, hplain, hfield⟩, ?_⟩
  exact ⟨n', ms', t', members_of_comma hrest, ht', List.subset_cons_self _ _⟩

/-- Reading a line of the template with a number. -/
theorem number_step {n k : Nat} {head : String} (key : String) {t r : List Char} {rest : List UInt8}
    {ms : List (List Char × Value)} (hkey : Plain key.toList)
    (hhead : ∀ x, '\n' :: (head.toList ++ x) =
      newline 4 ++ '"' :: (key.toList ++ '"' :: ':' :: ' ' :: x))
    (h : Json.members n ('\n' :: t) = some (ms, r))
    (hencode : encode t = bytes head ++ (toStringBytes k ++ (bytes ",\n" ++ rest))) :
    ∃ n' ms' t', Json.members n' ('\n' :: t') = some (ms', r) ∧ encode t' = rest ∧ ms' ⊆ ms := by
  obtain ⟨x, rfl, hx⟩ := exists_of_encode_append hencode
  obtain ⟨y, rfl, hy⟩ := exists_of_encode_append hx
  obtain ⟨t', rfl, ht'⟩ := exists_of_encode_append (s := [',', '\n']) hy
  rw [hhead, List.cons_append, List.singleton_append] at h
  have hstops : Stops isSpace (Nat.toDigits 10 k ++ ',' :: '\n' :: t') := by
    obtain ⟨c, s, hs, hc⟩ := (denotes_toDigits k).head
    rw [hs]
    exact stops_cons (not_isSpace_of_beginsValue hc)
  obtain ⟨n', v, s, ms', hread, rfl, hrest⟩ :=
    of_members_eq (space_newline 4) hkey.chars hstops h
  obtain ⟨_, rfl⟩ := of_value_number (number_toDigits k) (stops_cons (by decide)) hread
  exact ⟨n', ms', t', members_of_comma hrest, ht', List.subset_cons_self _ _⟩

/-- The template behind the second number. -/
def afterRamBytes (env : EnvironmentInfo) : List UInt8 :=
  bytes "    \"sql_version\": \"" ++ (env.sqlVersion ++ (bytes "\",\n" ++
    (bytes "    \"tool_version\": \"" ++ (bytes vdiWrapperVersionString ++ (bytes "\"\n" ++
      (bytes "  \x7d" ++ bytes "\x7d"))))))

/-- The template behind the first three strings. -/
def afterCpuModel (env : EnvironmentInfo) : List UInt8 :=
  bytes "    \"cpu_core_count\": " ++ (toStringBytes env.cpuCoreCount.toNat ++ (bytes ",\n" ++
    (bytes "    \"ram_bytes\": " ++ (toStringBytes env.ramBytes.toNat ++ (bytes ",\n" ++
      env.afterRamBytes)))))

theorem document_eq (env : EnvironmentInfo) :
    env.document = bytes "\x7b  \"environment\": \x7b\n" ++
      (bytes "    \"os_name\": \"" ++ (env.osName ++ (bytes "\",\n" ++
        (bytes "    \"os_version\": \"" ++ (env.osVersion ++ (bytes "\",\n" ++
          (bytes "    \"cpu_model\": \"" ++ (env.cpuModel ++ (bytes "\",\n" ++
            env.afterCpuModel))))))))) := by
  have hopening : bytes "\x7b  \"environment\": \x7b\n" =
      bytes "\x7b" ++ bytes "  \"environment\": \x7b\n" := by
    rw [bytes, bytes, bytes, ← encode_append]
    rfl
  rw [hopening]
  simp only [document, environmentToJson, afterCpuModel, afterRamBytes, List.flatten_cons,
    List.flatten_nil, List.append_nil, List.append_assoc]

/-- The two objects are opened. -/
theorem members_of_document {x : List Char} {ms : List (List Char × Value)}
    (h : Document ("\x7b  \"environment\": \x7b\n".toList ++ ("    \"os_name\": \"".toList ++ x))
      (.object [("environment".toList, .object ms)])) :
    ∃ n r, Json.members n ('\n' :: ("    \"os_name\": \"".toList ++ x)) = some (ms, r) := by
  have houter : "\x7b  \"environment\": \x7b\n".toList ++ ("    \"os_name\": \"".toList ++ x) =
      '{' :: ([' ', ' '] ++ '"' :: ("environment".toList ++ '"' :: ':' :: ' ' :: '{' ::
        '\n' :: ("    \"os_name\": \"".toList ++ x))) := by
    simp
  have hinner : '\n' :: ("    \"os_name\": \"".toList ++ x) =
      newline 4 ++ '"' :: ("os_name\": \"".toList ++ x) := by
    simp [newline]
  have hblanks : Space [' ', ' '] := by simp [Space, isSpace]
  rw [houter] at h
  obtain ⟨n, ms₁, r, hms, hobject⟩ := h.of_brace (skipSpace_quote hblanks)
  obtain ⟨n', v, s, ms₂, hread, rfl, _⟩ :=
    of_members_eq hblanks (Plain.chars (by decide)) (stops_cons (by decide)) hms
  have hopened : (skipSpace ('\n' :: ("    \"os_name\": \"".toList ++ x))).head? ≠
      some '}' := by
    rw [hinner]
    exact skipSpace_quote (space_newline 4)
  obtain ⟨n₁, ms', hmembers, rfl⟩ := of_value_brace hopened hread
  cases hobject
  exact ⟨n₁, s, hmembers⟩

theorem RoundTrips.clean (h : env.RoundTrips) : env.Clean := by
  obtain ⟨text, v, hencode, hdocument, osName, osVersion, cpuModel, sqlVersion, ms₀, hv, hperm,
    hosName, hosVersion, hcpuModel, hsqlVersion⟩ := h
  rw [document_eq] at hencode
  obtain ⟨t₁, rfl, ht₁⟩ := exists_of_encode_append hencode
  obtain ⟨x, rfl, _⟩ := exists_of_encode_append ht₁
  rw [hv] at hdocument
  obtain ⟨n₁, r, hinner⟩ := members_of_document hdocument
  have hmem : ms₀ ⊆ env.members osName osVersion cpuModel sqlVersion := hperm.subset
  -- its members are read one after the other
  obtain ⟨hcosName, n₂, ms₂, t₂, h₂, ht₂, hsub₂⟩ := string_step "os_name" (by decide)
    (by simp [newline]) hinner ht₁ fun v hv =>
      ⟨osName, by simpa [members] using hmem hv, hosName⟩
  have hmem₂ := List.Subset.trans hsub₂ hmem
  obtain ⟨hcosVersion, n₃, ms₃, t₃, h₃, ht₃, hsub₃⟩ := string_step "os_version"
    (by decide) (by simp [newline]) h₂ ht₂ fun v hv =>
      ⟨osVersion, by simpa [members] using hmem₂ hv, hosVersion⟩
  have hmem₃ := List.Subset.trans hsub₃ hmem₂
  obtain ⟨hccpuModel, n₄, ms₄, t₄, h₄, ht₄, hsub₄⟩ := string_step "cpu_model"
    (by decide) (by simp [newline]) h₃ ht₃ fun v hv =>
      ⟨cpuModel, by simpa [members] using hmem₃ hv, hcpuModel⟩
  obtain ⟨n₅, ms₅, t₅, h₅, ht₅, hsub₅⟩ := number_step "cpu_core_count"
    (by decide) (by simp [newline]) h₄ ht₄
  obtain ⟨n₆, ms₆, t₆, h₆, ht₆, hsub₆⟩ := number_step "ram_bytes"
    (by decide) (by simp [newline]) h₅ ht₅
  have hmem₆ := List.Subset.trans hsub₆ (List.Subset.trans hsub₅ (List.Subset.trans hsub₄ hmem₃))
  obtain ⟨hcsqlVersion, _⟩ := string_step "sql_version"
    (by decide) (by simp [newline]) h₆ ht₆ fun v hv =>
      ⟨sqlVersion, by simpa [members] using hmem₆ hv, hsqlVersion⟩
  exact ⟨hcosName, hcosVersion, hccpuModel, hcsqlVersion⟩

/-! ## Two environments with one text -/

theorem notMem_toStringBytes {b : UInt8} (n : Nat) (hb : b.toNat < 48) :
    b ∉ toStringBytes n := by
  intro h
  obtain ⟨c, hc, hcode⟩ := mem_of_mem_encode h (by omega)
  have hdigit := isDigit_toDigits n c hc
  simp only [Char.isDigit, Bool.and_eq_true, decide_eq_true_eq] at hdigit
  have hle : 48 ≤ c.toNat := UInt32.le_iff_toNat_le.mp hdigit.1
  omega

theorem toStringBytes_injective {m n : Nat} (h : toStringBytes m = toStringBytes n) : m = n := by
  have hdigits := congrArg (fun ds => Nat.ofDigitChars 10 ds 0) (encode_injective h)
  simpa [Nat.ofDigitChars_toDigits] using hdigits

/-- Without quotes in their strings, texts of two environments break at the same places. -/
theorem field_eq {s s' rest rest' : List UInt8} (hs : (0x22 : UInt8) ∉ s)
    (hs' : (0x22 : UInt8) ∉ s')
    (h : s' ++ (bytes "\",\n" ++ rest') = s ++ (bytes "\",\n" ++ rest)) :
    s' = s ∧ rest' = rest := by
  obtain ⟨hfield, hrest⟩ := break_unique (c := (0x22 : UInt8)) h hs' hs
  have hcomma : [0x2c, 0x0a] ++ rest' = [0x2c, 0x0a] ++ rest := hrest
  exact ⟨hfield, List.append_cancel_left hcomma⟩

theorem number_eq {m n : Nat} {rest rest' : List UInt8}
    (h : toStringBytes m ++ (bytes ",\n" ++ rest') = toStringBytes n ++ (bytes ",\n" ++ rest)) :
    m = n ∧ rest' = rest := by
  obtain ⟨hnumber, hrest⟩ := break_unique (c := (0x2c : UInt8)) h
    (notMem_toStringBytes m (by decide)) (notMem_toStringBytes n (by decide))
  have hbreak : [0x0a] ++ rest' = [0x0a] ++ rest := hrest
  exact ⟨toStringBytes_injective hnumber, List.append_cancel_left hbreak⟩

/-- The text of a clean environment is no other's: it has the quotes of the template only. -/
theorem Clean.eq_of_document_eq {env env' : EnvironmentInfo} (h : env.Clean)
    (heq : env'.document = env.document) : env' = env := by
  have hosName := h.osName.quote_notMem
  have hosVersion := h.osVersion.quote_notMem
  have hcpuModel := h.cpuModel.quote_notMem
  have hsqlVersion := h.sqlVersion.quote_notMem
  have hcount := congrArg (List.count (0x22 : UInt8)) heq
  have hnumber : ∀ n, (toStringBytes n).count (0x22 : UInt8) = 0 := fun n =>
    List.count_eq_zero_of_not_mem (notMem_toStringBytes n (by decide))
  simp only [document, environmentToJson, List.flatten_cons, List.flatten_nil, List.count_append,
    List.count_nil, hnumber, List.count_eq_zero_of_not_mem hosName,
    List.count_eq_zero_of_not_mem hosVersion, List.count_eq_zero_of_not_mem hcpuModel,
    List.count_eq_zero_of_not_mem hsqlVersion] at hcount
  have hosName' : (0x22 : UInt8) ∉ env'.osName := List.count_eq_zero.mp (by omega)
  have hosVersion' : (0x22 : UInt8) ∉ env'.osVersion := List.count_eq_zero.mp (by omega)
  have hcpuModel' : (0x22 : UInt8) ∉ env'.cpuModel := List.count_eq_zero.mp (by omega)
  have hsqlVersion' : (0x22 : UInt8) ∉ env'.sqlVersion := List.count_eq_zero.mp (by omega)
  rw [document_eq, document_eq] at heq
  obtain ⟨heosName, heq⟩ := field_eq hosName hosName'
    (List.append_cancel_left (List.append_cancel_left heq))
  obtain ⟨heosVersion, heq⟩ := field_eq hosVersion hosVersion' (List.append_cancel_left heq)
  obtain ⟨hecpuModel, heq⟩ := field_eq hcpuModel hcpuModel' (List.append_cancel_left heq)
  obtain ⟨hecpuCoreCount, heq⟩ := number_eq (List.append_cancel_left heq)
  obtain ⟨heramBytes, heq⟩ := number_eq (List.append_cancel_left heq)
  obtain ⟨hesqlVersion, _⟩ := field_eq hsqlVersion hsqlVersion' (List.append_cancel_left heq)
  obtain ⟨osName, osVersion, cpuModel, cpuCoreCount, ramBytes, sqlVersion⟩ := env
  obtain ⟨osName', osVersion', cpuModel', cpuCoreCount', ramBytes', sqlVersion'⟩ := env'
  rw [EnvironmentInfo.mk.injEq]
  exact ⟨heosName, heosVersion, hecpuModel, UInt32.toNat_inj.mp hecpuCoreCount,
    UInt64.toNat_inj.mp heramBytes, hesqlVersion⟩

/-- The document decodes to the fields, and is that of no other environment, exactly if no string
needs an escape. -/
theorem roundTrips_iff_clean (env : EnvironmentInfo) :
    (env.RoundTrips ∧ ∀ env', env'.document = env.document → env' = env) ↔ env.Clean := by
  constructor
  · intro ⟨hroundTrips, _⟩
    exact hroundTrips.clean
  · intro hclean
    exact ⟨hclean.roundTrips, fun env' heq => hclean.eq_of_document_eq heq⟩

/-- An `EnvironmentInfo` whose `os_name` and `os_version` are the given literals. -/
def named (osName osVersion : String) : EnvironmentInfo :=
  { osName := bytes osName, osVersion := bytes osVersion, cpuModel := [], cpuCoreCount := 0,
    ramBytes := 0, sqlVersion := [] }

/-- The template between `os_name` and `os_version`, with a letter on both sides. -/
def templateLine (before after : String) : String :=
  before ++ "\",\n    \"os_version\": \"" ++ after

/-- A quote in `os_name`, which ends the string there; and two environments with one text, for
either of the two fields may hold a line of the template. -/
theorem not_roundTrips_quote :
    ¬ (named "\"" "").RoundTrips ∧
      (named "a" (templateLine "b" "c")).document = (named (templateLine "a" "b") "c").document ∧
      named "a" (templateLine "b" "c") ≠ named (templateLine "a" "b") "c" := by
  refine ⟨?_, by decide +kernel, by decide +kernel⟩
  intro h
  exact h.clean.osName.quote_notMem (by decide)

end EnvironmentInfo

end Vdi
