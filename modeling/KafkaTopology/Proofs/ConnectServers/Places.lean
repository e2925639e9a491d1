import KafkaTopology.Proofs.ConnectServers.Addresses
/-!
# Places of connectors

A Connect server keeps its connectors in a list at an address. The base URL of a server, the URL
that definitions are posted to and the URL of an entry below it have one scheme and one authority,
and their paths go on from each other (`ConnectServers.listAt_post`, `ConnectServers.listAt_sent`).

A deletion reaches one place at most: that of its artefact, or that of a connector with a shorter
name (`ConnectServers.own_or_lt_of_reaches`). It reaches the place of its artefact if and only if
the name of the artefact is a segment of a path as it stands (`ConnectServers.reaches_own_iff`).
-/
namespace KafkaTopology

/-- Where a server keeps a list of connectors. Letters of the scheme and of the authority may be of
either case. -/
structure Address where
  scheme : String
  authority : String
  list : List Char
deriving DecidableEq

namespace Url

/-- The list at a path of the server of a URL. -/
def listAt (u : Url) (list : List Char) : Address :=
  ⟨u.scheme.map Char.toLower, u.authority.map Char.toLower, list⟩

/-- Whether a request to a URL is about the connector of a name in a list. -/
def Reaches (u : Url) (place : Address) (name : String) : Prop :=
  place = u.listAt place.list ∧ u.LeadsTo place.list (octets name.toList)

instance (u : Url) (list : List Char) (name : List UInt8) : Decidable (u.LeadsTo list name) :=
  decidable_of_iff (∃ segment ∈ (list ++ ['/']).isPrefixOf? u.path,
      '/' ∉ segment ∧ decoded segment = name) <|
    exists_congr fun segment => by
      rw [Option.mem_def, List.isPrefixOf?_eq_some_iff_append_eq, List.append_assoc, eq_comm]
      rfl

instance (u : Url) (place : Address) (name : String) : Decidable (u.Reaches place name) :=
  inferInstanceAs (Decidable (_ ∧ _))

/-- A path with two readings as a list and what follows it: the lists are the same, or else the
longer one has a slash before what follows. -/
theorem eq_or_slash_mem {list list' segment segment' : List Char}
    (h : list ++ '/' :: segment = list' ++ '/' :: segment') (hsegment' : '/' ∉ segment') :
    list = list' ∧ segment = segment' ∨
      '/' ∈ segment ∧ (octets segment').length < (octets segment).length := by
  rcases List.append_eq_append_iff.1 h with ⟨between, rfl, hrest⟩ | ⟨between, rfl, hrest⟩
  · cases between with
    | nil => exact .inl ⟨(List.append_nil _).symm, (List.cons.inj hrest).2⟩
    | cons c between =>
      have hsegment : segment = between ++ '/' :: segment' := (List.cons.inj hrest).2
      rw [hsegment]
      refine .inr ⟨by simp, ?_⟩
      simp only [octets, List.flatMap_append, List.flatMap_cons, List.length_append]
      have hslash : 0 < (String.utf8EncodeChar '/').length := by decide
      omega
  · cases between with
    | nil => exact .inl ⟨List.append_nil _, (List.cons.inj hrest).2.symm⟩
    | cons c between =>
      have hsegment : segment' = between ++ '/' :: segment := (List.cons.inj hrest).2
      exact absurd (by simp [hsegment]) hsegment'

/-- A URL reaches one place at most. -/
theorem Reaches.unique {u : Url} {place place' : Address} {name name' : String}
    (h : u.Reaches place name) (h' : u.Reaches place' name') : place = place' ∧ name = name' := by
  obtain ⟨hplace, segment, hpath, hslash, hname⟩ := h
  obtain ⟨hplace', segment', hpath', hslash', hname'⟩ := h'
  rw [hpath] at hpath'
  obtain ⟨hlist, rfl⟩ := (eq_or_slash_mem hpath' hslash').resolve_right fun h => hslash h.1
  refine ⟨by rw [hplace, hplace', hlist], ?_⟩
  exact String.toList_injective (octets_injective (hname.symm.trans hname'))

end Url

namespace ConnectServers

open Url

variable {servers : ConnectServers} {a : Artefact} {base label name : String} {u sent : Url}

/-- Where the connectors of a server are, by its alias. -/
def address? (servers : ConnectServers) (label : String) : Option Address :=
  (servers.get? label).bind fun base =>
    (ofText base).toOption.map fun u => u.listAt u.connectors

/-- One server for each alias: each has a base URL that ends in a path, and no two of them have
their connectors in one place. -/
structure Apart (servers : ConnectServers) : Prop where
  isBase : ∀ label base, servers.get? label = some base → ∃ u, IsBase base u
  address : ∀ label label' place, servers.address? label = some place →
    servers.address? label' = some place → label = label'

/-- Whether deleting an artefact is about the connector of a name at a server. -/
def reaches (servers : ConnectServers) (a : Artefact) (label name : String) : Bool :=
  match (servers.connectorUrl a).toOption.bind fun url => (ofText url).toOption,
    servers.address? label with
  | some u, some place => decide (u.Reaches place name)
  | _, _ => false

theorem address?_eq (hserver : servers.get? label = some base) (hbase : IsBase base u) :
    servers.address? label = some (u.listAt u.connectors) := by
  rw [address?, hserver, Option.bind_some, hbase.url]
  rfl

/-! ## What is sent -/

/-- What a base URL begins with is what the URL begins with. -/
theorem exists_beginning (h : IsBase base u) :
    ∃ scheme authority, Begins scheme authority ∧
      base.toList = scheme ++ ':' :: '/' :: '/' :: (authority ++ u.target.toList) ∧
      u.scheme = .ofList scheme ∧ u.authority = .ofList authority := by
  obtain ⟨scheme, authority, hbegins, hfollows, htext, -⟩ := exists_base h
  obtain ⟨-, target, -, hu⟩ := (ofText_eq_ok_iff_of_begins hbegins hfollows htext).1 h.url
  exact ⟨scheme, authority, hbegins, htext, congrArg Url.scheme hu, congrArg Url.authority hu⟩

/-- What is sent to a URL below that of the list goes to the same server. -/
theorem listAt_sent (h : IsBase base u) {text : String} {rest : List Char}
    (htext : text.toList = (trimSlashes base ++ "/connectors").toList ++ rest)
    (hsent : ofText text = .ok sent) :
    sent.path = beforeQuery (u.connectors ++ rest) ∧ ∀ list, sent.listAt list = u.listAt list := by
  obtain ⟨scheme, authority, hbegins, hbase, hscheme, hauthority⟩ := exists_beginning h
  obtain ⟨-, -, -, hfollows⟩ := connectors_plain h
  rw [toList_listUrl hbegins hbase, List.append_assoc, List.cons_append, List.cons_append,
    List.cons_append, List.append_assoc] at htext
  obtain ⟨-, target, htarget, rfl⟩ :=
    (ofText_eq_ok_iff_of_begins hbegins (hfollows _) htext).1 hsent
  obtain ⟨-, rfl⟩ := targetOf_eq_ok_iff.1 htarget
  refine ⟨?_, fun list => by rw [listAt, listAt, hscheme, hauthority]⟩
  rw [path, String.toList_ofList, beforeQuery]

/-- Definitions are posted to the list of the server. -/
theorem listAt_post (h : IsBase base u)
    (hsent : ofText (trimSlashes base ++ "/connectors") = .ok sent) :
    sent.listAt sent.path = u.listAt u.connectors := by
  obtain ⟨hquestion, hhash, -⟩ := connectors_plain h
  obtain ⟨hpath, hserver⟩ := listAt_sent h (List.append_nil _).symm hsent
  rw [hserver, hpath, List.append_nil, beforeQuery_eq_self_iff.2 ⟨hquestion, hhash⟩]

/-- Entries are below the list of the server. -/
theorem listAt_entry (h : IsBase base u) (hsent : ofText (entryUrl base name) = .ok sent)
    (list : List Char) : sent.listAt list = u.listAt list := by
  have htext : (entryUrl base name).toList =
      (trimSlashes base ++ "/connectors").toList ++ '/' :: name.toList := by
    rw [entryUrl]
    simp
  exact (listAt_sent h htext hsent).2 list

section

variable (hserver : servers.get? a.server = some base) (hbase : IsBase base u)
  (hsent : ofText (entryUrl base a.name) = .ok sent)
include hserver hsent

theorem reaches_iff :
    servers.reaches a label name = true ↔
      ∃ place, servers.address? label = some place ∧ sent.Reaches place name := by
  have hurl : servers.connectorUrl a = .ok (entryUrl base a.name) := connectorUrl_eq_ok hserver
  rw [reaches, hurl]
  simp only [Except.toOption, Option.bind_some, hsent]
  cases servers.address? label <;> simp

/-- A deletion is about one place at most. -/
theorem eq_of_reaches (hservers : servers.Apart) {label' name' : String}
    (h : servers.reaches a label name = true) (h' : servers.reaches a label' name' = true) :
    label = label' ∧ name = name' := by
  obtain ⟨place, hplace, hreaches⟩ := (reaches_iff hserver hsent).1 h
  obtain ⟨place', hplace', hreaches'⟩ := (reaches_iff hserver hsent).1 h'
  obtain ⟨rfl, rfl⟩ := hreaches.unique hreaches'
  exact ⟨hservers.address _ _ _ hplace hplace', rfl⟩

include hbase

/-- A deletion is about the connector of its artefact if and only if the name is a segment of a
path as it stands. -/
theorem reaches_own_iff :
    servers.reaches a a.server a.name = true ↔ IsSegment a.name.toList := by
  obtain ⟨hurl, hpath⟩ := ofText_entryUrl_iff hbase a.name
  obtain ⟨-, htarget⟩ := hurl.1 (by rw [hsent]; rfl)
  have hplace : u.listAt u.connectors = sent.listAt u.connectors :=
    (listAt_entry hbase hsent _).symm
  rw [reaches_iff hserver hsent, address?_eq hserver hbase, isSegment_iff, and_iff_right htarget,
    ← leadsTo_iff (hpath sent hsent)]
  simp only [Option.some.injEq, exists_eq_left']
  exact and_iff_right hplace

/-- A deletion that is about another connector is about one with a shorter name. -/
theorem own_or_lt_of_reaches (hservers : servers.Apart)
    (h : servers.reaches a label name = true) :
    (a.server = label ∧ a.name = name) ∨
      (octets name.toList).length < (octets a.name.toList).length := by
  obtain ⟨place, hplace, hlist, segment, hpath, hslash, hname⟩ := (reaches_iff hserver hsent).1 h
  have hown := (ofText_entryUrl_iff hbase a.name).2 sent hsent
  have hle : (octets name.toList).length ≤ (octets segment).length :=
    hname ▸ length_decoded_le segment
  have hbegins := beforeQuery_prefix_self a.name.toList
  have hbefore : (octets (beforeQuery a.name.toList)).length ≤ (octets a.name.toList).length :=
    (hbegins.flatMap String.utf8EncodeChar).length_le
  rcases eq_or_slash_mem (hown.symm.trans hpath) hslash with ⟨hsame, rfl⟩ | ⟨-, hlt⟩
  · by_cases hlt : (octets name.toList).length < (octets a.name.toList).length
    · exact .inr hlt
    · -- Nothing of the name is left out, and there is no escape in it.
      have hall : beforeQuery a.name.toList = a.name.toList :=
        eq_of_length_octets hbegins (by omega)
      rw [hall] at hname hle
      have hplain : decoded a.name.toList = octets a.name.toList := by
        refine (length_decoded _).2 fun hescape => ?_
        have hshort := (length_decoded _).1 hescape
        rw [hname] at hshort
        omega
      have hplace' : servers.address? a.server = some place := by
        rw [address?_eq hserver hbase, hlist, ← hsame]
        exact congrArg some (listAt_entry hbase hsent _).symm
      refine .inl ⟨hservers.address _ _ _ hplace' hplace, ?_⟩
      exact String.toList_injective (octets_injective (hplain.symm.trans hname))
  · exact .inr (by omega)

/-- Where its name is a segment, deleting an artefact is about its connector and no other one. -/
theorem reaches_iff_of_isSegment (hservers : servers.Apart) (hname : IsSegment a.name.toList) :
    servers.reaches a label name = true ↔ a.server = label ∧ a.name = name := by
  have hown := (reaches_own_iff hserver hbase hsent).2 hname
  constructor
  · exact fun h => eq_of_reaches hserver hsent hservers hown h
  · rintro ⟨rfl, rfl⟩
    exact hown

end

end ConnectServers
end KafkaTopology
