import MetricLoad.Network.Target
import MetricLoad.Proofs.Text.Parts

/-!
# Targets and their notation

The three stems of targets exclude each other, so a text without blanks around it is of exactly one
kind: empty, behind one of the stems, or an address itself.  A target that is written in its
notation is read back.  Only a text behind `dns+` can be invalid, and it is so exactly when it does
not divide into a host and the number of a port.
-/

namespace MetricLoad.Target

open Text

/-! ## Hosts and ports -/

/-- A text that is no host with a port behind its last colon: there is no colon, no host, or no
number of a port. -/
inductive LacksHostOrPort : List Char → Prop
  | noColon {s : List Char} (h : ':' ∉ s) : LacksHostOrPort s
  | noHost {digits : List Char} (h : ':' ∉ digits) : LacksHostOrPort (':' :: digits)
  | noPort {host digits : List Char} (h : ':' ∉ digits)
      (hport : ∀ n, WritesUnsigned digits n → 65535 < n) :
      LacksHostOrPort (host ++ ':' :: digits)

theorem hostAndPort?_of_split {host digits : List Char} (h : ':' ∉ digits) :
    hostAndPort? (host ++ ':' :: digits) =
      (unsigned? digits).bind fun port =>
        if host.isEmpty || 65535 < port then none
        else some (.host (String.ofList host) port.toUInt16) := by
  rw [hostAndPort?, splitLast?_eq_some_iff.2 ⟨rfl, h⟩]
  rfl

theorem hostAndPort?_of_port {host digits : List Char} (hhost : host ≠ []) {port : UInt16}
    (hport : WritesUnsigned digits port.toNat) :
    hostAndPort? (host ++ ':' :: digits) = some (.host (String.ofList host) port) := by
  have hcolon : ':' ∉ digits := by
    intro hmem
    rcases hport.mem hmem with h | h
    · cases h
    · cases h
  have hsmall : ¬ (host.isEmpty || decide (65535 < port.toNat)) = true := by
    rw [Bool.or_eq_true, List.isEmpty_iff, decide_eq_true_eq]
    rintro (h | h)
    · exact hhost h
    · exact absurd port.toNat_lt (by omega)
  rw [hostAndPort?_of_split hcolon, unsigned?_eq_some_iff.2 hport, Option.bind_some, if_neg hsmall]
  simp

theorem hostAndPort?_eq_none_iff {s : List Char} : hostAndPort? s = none ↔ LacksHostOrPort s := by
  constructor
  · intro h
    cases hsplit : splitLast? ':' s with
    | none => exact .noColon (splitLast?_eq_none_iff.1 hsplit)
    | some parts =>
      obtain ⟨host, digits⟩ := parts
      obtain ⟨rfl, hcolon⟩ := splitLast?_eq_some_iff.1 hsplit
      rw [hostAndPort?_of_split hcolon] at h
      by_cases hhost : host = []
      · subst hhost
        exact .noHost hcolon
      · refine .noPort hcolon fun n hn => ?_
        rw [unsigned?_eq_some_iff.2 hn, Option.bind_some] at h
        simpa [hhost] using h
  · intro h
    cases h with
    | noColon h => rw [hostAndPort?, splitLast?_eq_none_iff.2 h]; rfl
    | @noHost digits h =>
      rw [← List.nil_append (':' :: digits), hostAndPort?_of_split h]
      cases unsigned? digits <;> rfl
    | @noPort host digits h hport =>
      rw [hostAndPort?_of_split h]
      cases hread : unsigned? digits with
      | none => rfl
      | some n =>
        have hlarge := hport n (unsigned?_eq_some_iff.1 hread)
        simp [hlarge]

/-! ## The kinds of targets -/

/-- A text that begins with none of the stems. -/
def HasNoStem (s : List Char) : Prop :=
  ∀ stem ∈ ["dns+", "dnssrv+", "dnssrvnoa+"], ¬ stem.toList <+: s

instance (s : List Char) : Decidable (HasNoStem s) :=
  inferInstanceAs (Decidable (∀ stem ∈ _, _))

theorem ofTrimmed_serviceByName (name : List Char) :
    ofTrimmed ("dnssrvnoa+".toList ++ name) = .ok (.serviceByName (String.ofList name)) := rfl

theorem ofTrimmed_service (name : List Char) :
    ofTrimmed ("dnssrv+".toList ++ name) = .ok (.service (String.ofList name)) := rfl

theorem ofTrimmed_dns (rest : List Char) :
    ofTrimmed ("dns+".toList ++ rest) =
      match hostAndPort? rest with
      | some target => .ok target
      | none => .error (.invalid (String.ofList ("dns+".toList ++ rest))) := rfl

theorem ofTrimmed_address {s : List Char} (hne : s ≠ []) (hstem : HasNoStem s) :
    ofTrimmed s = .ok (.address (String.ofList s)) := by
  have hempty : ¬ s.isEmpty = true := by simpa using hne
  have hdrop (stem : String) (h : stem ∈ ["dns+", "dnssrv+", "dnssrvnoa+"]) :
      dropStem? stem.toList s = none :=
    dropStem?_eq_none_iff.2 (hstem stem h)
  rw [ofTrimmed, if_neg hempty, hdrop "dnssrvnoa+" (by simp), hdrop "dnssrv+" (by simp),
    hdrop "dns+" (by simp)]

/-- A text is empty, stands behind a stem, or has none. -/
theorem eq_nil_or_stem (s : List Char) :
    s = [] ∨ (∃ name, s = "dnssrvnoa+".toList ++ name) ∨ (∃ name, s = "dnssrv+".toList ++ name) ∨
      (∃ rest, s = "dns+".toList ++ rest) ∨ s ≠ [] ∧ HasNoStem s := by
  by_cases hstem : HasNoStem s
  · by_cases hne : s = []
    · exact .inl hne
    · exact .inr (.inr (.inr (.inr ⟨hne, hstem⟩)))
  · simp only [HasNoStem, not_forall, not_not] at hstem
    obtain ⟨stem, hmem, rest, rfl⟩ := hstem
    simp only [List.mem_cons, List.not_mem_nil, or_false] at hmem
    rcases hmem with rfl | rfl | rfl
    · exact .inr (.inr (.inr (.inl ⟨rest, rfl⟩)))
    · exact .inr (.inr (.inl ⟨rest, rfl⟩))
    · exact .inr (.inl ⟨rest, rfl⟩)

theorem ofTrimmed_eq_empty_iff {s : List Char} : ofTrimmed s = .error .empty ↔ s = [] := by
  constructor
  · intro h
    rcases eq_nil_or_stem s with hnil | ⟨name, rfl⟩ | ⟨name, rfl⟩ | ⟨rest, rfl⟩ | ⟨hne, hstem⟩
    · exact hnil
    · cases h
    · cases h
    · rw [ofTrimmed_dns] at h
      split at h <;> cases h
    · rw [ofTrimmed_address hne hstem] at h
      cases h
  · rintro rfl
    rfl

theorem ofTrimmed_eq_invalid_iff {s : List Char} {text : String} :
    ofTrimmed s = .error (.invalid text) ↔
      text = String.ofList s ∧ ∃ rest, s = "dns+".toList ++ rest ∧ LacksHostOrPort rest := by
  constructor
  · intro h
    rcases eq_nil_or_stem s with rfl | ⟨name, rfl⟩ | ⟨name, rfl⟩ | ⟨rest, rfl⟩ | ⟨hne, hstem⟩
    · cases h
    · cases h
    · cases h
    · rw [ofTrimmed_dns] at h
      split at h
      · cases h
      · rename_i hnone
        cases h
        exact ⟨rfl, rest, rfl, hostAndPort?_eq_none_iff.1 hnone⟩
    · rw [ofTrimmed_address hne hstem] at h
      cases h
  · rintro ⟨rfl, rest, rfl, hlacks⟩
    rw [ofTrimmed_dns, hostAndPort?_eq_none_iff.2 hlacks]

/-! ## Reading back -/

theorem parse_of_isTrimmed {s : String} (h : IsTrimmed s.toList) :
    parse s = ofTrimmed s.toList := by
  rw [parse, h.trim_eq]

/-- A text behind a stem begins with a letter; it ends as what follows the stem does. -/
theorem isTrimmed_stem_append {stem s : List Char} (hstem : IsTrimmed stem) (hne : stem ≠ [])
    (hs : ∀ c ∈ s.getLast?, isBlank c = false) : IsTrimmed (stem ++ s) := by
  constructor
  · rw [List.head?_append_of_ne_nil _ hne]
    exact hstem.first
  · intro c hc
    rw [List.getLast?_append, Option.mem_def, Option.or_eq_some_iff] at hc
    rcases hc with hc | ⟨-, hc⟩
    · exact hs c hc
    · exact hstem.last c hc

theorem parse_host {host : String} (hhost : host ≠ "") (port : UInt16) :
    parse ("dns+" ++ host ++ ":" ++ toString port.toNat) = .ok (.host host port) := by
  have hport := writesUnsigned_toString port.toNat
  have htext : ("dns+" ++ host ++ ":" ++ toString port.toNat).toList =
      "dns+".toList ++ (host.toList ++ ':' :: (toString port.toNat).toList) := by
    simp [List.append_assoc]
  have hlast : ∀ c ∈ (host.toList ++ ':' :: (toString port.toNat).toList).getLast?,
      isBlank c = false := by
    intro c hc
    rw [List.getLast?_append_of_ne_nil _ (List.cons_ne_nil _ _),
      ← List.singleton_append, List.getLast?_append_of_ne_nil _ hport.ne_nil] at hc
    rcases hport.mem (List.mem_of_getLast? hc) with rfl | hdigit
    · decide
    · exact Duration.isBlank_of_isDigit hdigit
  have hne : host.toList ≠ [] := by simpa using hhost
  rw [parse_of_isTrimmed, htext, ofTrimmed_dns, hostAndPort?_of_port hne hport,
    String.ofList_toList]
  rw [htext]
  exact isTrimmed_stem_append (by decide) (by decide) hlast

theorem parse_service {name : String} (hname : ∀ c ∈ name.toList.getLast?, isBlank c = false) :
    parse ("dnssrv+" ++ name) = .ok (.service name) := by
  rw [parse_of_isTrimmed, String.toList_append, ofTrimmed_service, String.ofList_toList]
  rw [String.toList_append]
  exact isTrimmed_stem_append (by decide) (by decide) hname

theorem parse_serviceByName {name : String}
    (hname : ∀ c ∈ name.toList.getLast?, isBlank c = false) :
    parse ("dnssrvnoa+" ++ name) = .ok (.serviceByName name) := by
  rw [parse_of_isTrimmed, String.toList_append, ofTrimmed_serviceByName, String.ofList_toList]
  rw [String.toList_append]
  exact isTrimmed_stem_append (by decide) (by decide) hname

theorem parse_address {text : String} (hne : text ≠ "") (htrimmed : IsTrimmed text.toList)
    (hstem : HasNoStem text.toList) : parse text = .ok (.address text) := by
  have hchars : text.toList ≠ [] := by simpa using hne
  rw [parse_of_isTrimmed htrimmed, ofTrimmed_address hchars hstem, String.ofList_toList]

theorem parse_blanks {front back : String} (hfront : ∀ c ∈ front.toList, isBlank c)
    (hback : ∀ c ∈ back.toList, isBlank c) (s : String) : parse (front ++ s ++ back) = parse s := by
  rw [parse, parse, String.toList_append, String.toList_append, trim_blanks hfront hback]

/-- What is written in the notation of targets is read back, and blanks around it do not count.  A
text is refused when trimming leaves nothing, or `dns+` without a host and the number of a port. -/
theorem parse_reads_notation :
    (∀ (host : String) (port : UInt16), host ≠ "" →
      parse ("dns+" ++ host ++ ":" ++ toString port.toNat) = .ok (.host host port)) ∧
    (∀ name : String, (∀ c ∈ name.toList.getLast?, isBlank c = false) →
      parse ("dnssrv+" ++ name) = .ok (.service name) ∧
      parse ("dnssrvnoa+" ++ name) = .ok (.serviceByName name)) ∧
    (∀ text : String, text ≠ "" → IsTrimmed text.toList → HasNoStem text.toList →
      parse text = .ok (.address text)) ∧
    (∀ front s back : String, (∀ c ∈ front.toList, isBlank c) → (∀ c ∈ back.toList, isBlank c) →
      parse (front ++ s ++ back) = parse s) ∧
    (∀ s : String, parse s = .error .empty ↔ trim s.toList = []) ∧
    ∀ s text : String, parse s = .error (.invalid text) ↔
      text = String.ofList (trim s.toList) ∧
        ∃ rest, trim s.toList = "dns+".toList ++ rest ∧ LacksHostOrPort rest := by
  refine ⟨?_, ?_, ?_, ?_, ?_, ?_⟩
  · exact fun host port hhost => parse_host hhost port
  · exact fun name hname => ⟨parse_service hname, parse_serviceByName hname⟩
  · exact fun text hne htrimmed hstem => parse_address hne htrimmed hstem
  · exact fun front s back hfront hback => parse_blanks hfront hback s
  · exact fun s => ofTrimmed_eq_empty_iff
  · exact fun s text => ofTrimmed_eq_invalid_iff

/-- Colons and blanks in a host, a service without a name, an address that almost has a stem, and
blanks outside of ASCII. -/
theorem parse_reads_notation_crowded :
    " [::1]: " ≠ "" ∧
    parse ("dns+" ++ " [::1]: " ++ ":" ++ toString (65535 : UInt16).toNat) =
      .ok (.host " [::1]: " 65535) ∧
    parse ("dnssrvnoa+" ++ "") = .ok (.serviceByName "") ∧
    IsTrimmed "dnssrv:80".toList ∧ HasNoStem "dnssrv:80".toList ∧
    parse "dnssrv:80" = .ok (.address "dnssrv:80") ∧
    parse ("\u3000" ++ "dns+host" ++ "\u0085\n") = parse "dns+host" := by
  have hhost : " [::1]: " ≠ "" := by decide
  have htrimmed : IsTrimmed "dnssrv:80".toList := by decide
  have hstem : HasNoStem "dnssrv:80".toList := by decide
  obtain ⟨hosts, services, addresses, blanks, -, -⟩ := parse_reads_notation
  exact ⟨hhost, hosts " [::1]: " 65535 hhost, (services "" (by simp)).2, htrimmed, hstem,
    addresses "dnssrv:80" (by decide) htrimmed hstem,
    blanks "\u3000" "dns+host" "\u0085\n" (List.all_eq_true.1 (by decide))
      (List.all_eq_true.1 (by decide))⟩

/-- A port may have a plus sign and zeros in front; no other text behind the last colon counts. -/
example : parse " dns+host:+080\n" = .ok (.host "host" 80) ∧
    parse "dns+::80:" = .error (.invalid "dns+::80:") := by
  decide +kernel

end MetricLoad.Target
