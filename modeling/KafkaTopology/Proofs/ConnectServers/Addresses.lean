import KafkaTopology.Proofs.ConnectServers.Sending
import KafkaTopology.Proofs.Url
import Mathlib.Data.List.DropRight
/-!
# Addresses of connectors

A connector is deleted by a request to the entry under its name in the list of connectors of its
server. The name is put behind the path of the list as it stands, so that a name which is no segment
of a path leads elsewhere: to the entry under another name, to no entry at all, or to no request.

* `ConnectServers.deletes_own_iff` — which entry is deleted, and when it is that of the artefact.
* `Hashed.deletes_other` — an artefact with a hash sign in its name, and the connector of another
  one that is deleted in its place.
-/
namespace KafkaTopology

/-- Whether a request deletes the entry of a list under a name. -/
def Request.Deletes (r : Request) (list : List Char) (name : List UInt8) : Prop :=
  ∃ url u, r = .delete url ∧ Url.ofText url = .ok u ∧ u.LeadsTo list name

namespace Url

/-- Whether a text is a URL with nothing behind its path. -/
structure IsBase (text : String) (u : Url) : Prop where
  url : ofText text = .ok u
  question : '?' ∉ text.toList
  hash : '#' ∉ text.toList

/-- The path of the list of connectors of a server: that of its base URL without the slashes at its
end, and one more segment. -/
def connectors (u : Url) : List Char :=
  u.target.toList.rdropWhile (· == '/') ++ "/connectors".toList

end Url

namespace ConnectServers

open Url

variable {servers : ConnectServers} {a : Artefact} {base : String} {u : Url}

/-- Where the connector of a name is, below a base URL. -/
def entryUrl (base name : String) : String := trimSlashes base ++ "/connectors" ++ "/" ++ name

/-! ## Base URLs -/

/-- The slashes at the end of a text all stand behind any other character. -/
theorem rdropWhile_slash_append {c : Char} (hc : c ≠ '/') (start cs : List Char) :
    (start ++ c :: cs).rdropWhile (· == '/') = start ++ c :: cs.rdropWhile (· == '/') := by
  have hkept : (c :: start.reverse).dropWhile (· == '/') = c :: start.reverse :=
    List.dropWhile_cons_of_neg (by simpa using hc)
  have hreverse : (start ++ c :: cs).reverse = cs.reverse ++ c :: start.reverse := by simp
  rw [List.rdropWhile, List.rdropWhile, hreverse, List.dropWhile_append, hkept]
  split
  · rename_i hnil
    rw [List.isEmpty_iff.1 hnil]
    simp
  · simp

/-- What a base URL begins with, and its path. -/
theorem exists_base (h : IsBase base u) :
    ∃ scheme authority, Begins scheme authority ∧ Follows u.target.toList ∧
      base.toList = scheme ++ ':' :: '/' :: '/' :: (authority ++ u.target.toList) ∧
      '?' ∉ u.target.toList ∧ '#' ∉ u.target.toList ∧
      ∀ c ∈ u.target.toList, isPathCharacter c = true := by
  obtain ⟨scheme, authority, path, hbegins, hfollows, htext, htarget⟩ := exists_begins h.url
  have hquestion : '?' ∉ path := fun hmem => h.question (by rw [htext]; simp [hmem])
  have hhash : '#' ∉ path := fun hmem => h.hash (by rw [htext]; simp [hmem])
  obtain ⟨hpath, htarget⟩ := targetOf_eq_ok_iff.1 htarget
  have htake : path.takeWhile (· != '#') = path :=
    List.takeWhile_eq_self_iff.2 fun c hc => bne_iff_ne.2 fun heq => hhash (heq ▸ hc)
  rw [IsTarget, beforeQuery_eq_self_iff.2 ⟨hquestion, hhash⟩] at hpath
  rw [htake] at htarget
  rw [htarget, String.toList_ofList]
  exact ⟨scheme, authority, hbegins, hfollows, htext, hquestion, hhash, hpath.1⟩

theorem toList_trimSlashes (s : String) :
    (trimSlashes s).toList = s.toList.rdropWhile (· == '/') := by
  rw [trimSlashes, String.toList_ofList, List.rdropWhile]

/-- The URL of the list goes on from what its base URL begins with. -/
theorem toList_listUrl {scheme authority : List Char} (h : Begins scheme authority)
    (hbase : base.toList = scheme ++ ':' :: '/' :: '/' :: (authority ++ u.target.toList)) :
    (trimSlashes base ++ "/connectors").toList =
      scheme ++ ':' :: '/' :: '/' :: (authority ++ u.connectors) := by
  obtain ⟨start, c, rfl⟩ := (List.eq_nil_or_concat authority).resolve_left h.authority_ne_nil
  have hc : c ≠ '/' := by
    rintro rfl
    exact absurd (h.authority_all '/' (by simp)) (by decide)
  have hsplit : base.toList =
      (scheme ++ ':' :: '/' :: '/' :: start) ++ c :: u.target.toList := by
    rw [hbase]
    simp
  rw [String.toList_append, toList_trimSlashes, hsplit, rdropWhile_slash_append hc, connectors]
  simp

/-- So does the URL of an entry. -/
theorem toList_entryUrl {scheme authority : List Char} (h : Begins scheme authority)
    (hbase : base.toList = scheme ++ ':' :: '/' :: '/' :: (authority ++ u.target.toList))
    (name : String) :
    (entryUrl base name).toList =
      scheme ++ ':' :: '/' :: '/' :: (authority ++ (u.connectors ++ '/' :: name.toList)) := by
  rw [entryUrl, String.toList_append, String.toList_append, toList_listUrl h hbase]
  simp

/-- The path of the list has only characters of paths, and may follow an authority. -/
theorem connectors_plain (h : IsBase base u) :
    '?' ∉ u.connectors ∧ '#' ∉ u.connectors ∧
      (∀ c ∈ u.connectors, isPathCharacter c = true) ∧ ∀ cs, Follows (u.connectors ++ cs) := by
  obtain ⟨-, -, -, hfollows, -, hquestion, hhash, hpath⟩ := exists_base h
  have htrimmed := List.rdropWhile_prefix (· == '/') u.target.toList
  have hown : "/connectors".toList.all fun c => isPathCharacter c && c != '?' && c != '#' := by
    decide
  simp only [List.all_eq_true, Bool.and_eq_true, bne_iff_ne, and_assoc] at hown
  have hmem : ∀ c ∈ u.connectors, c ∈ u.target.toList ∨ c ∈ "/connectors".toList := fun c hc =>
    (List.mem_append.1 hc).imp_left fun hc => htrimmed.subset hc
  refine ⟨fun hc => ?_, fun hc => ?_, fun c hc => ?_, fun cs c hc => ?_⟩
  · exact (hmem _ hc).elim hquestion fun hc => (hown _ hc).2.1 rfl
  · exact (hmem _ hc).elim hhash fun hc => (hown _ hc).2.2 rfl
  · exact (hmem c hc).elim (hpath c) fun hc => (hown c hc).1
  · rw [connectors, List.append_assoc] at hc
    cases htrim : u.target.toList.rdropWhile (· == '/') with
    | nil =>
      rw [htrim] at hc
      cases hc
      rfl
    | cons d ds =>
      -- The first character is that of the path before it was trimmed.
      rw [htrim] at hc htrimmed
      cases hc
      obtain ⟨rest, hrest⟩ := htrimmed
      exact hfollows c (by rw [← hrest]; rfl)

/-- What is sent for a name: the name may have to end a target, and the part of it before a query
ends the path. -/
theorem ofText_entryUrl_iff (h : IsBase base u) (name : String) :
    ((ofText (entryUrl base name)).isOk = true ↔
        (entryUrl base name).utf8ByteSize ≤ greatestSize ∧ IsTarget name.toList) ∧
      ∀ sent, ofText (entryUrl base name) = .ok sent →
        sent.path = u.connectors ++ '/' :: beforeQuery name.toList := by
  obtain ⟨scheme, authority, hbegins, -, hbase, -⟩ := exists_base h
  obtain ⟨hquestion, hhash, hpath, hfollows⟩ := connectors_plain h
  have htarget : IsTarget (u.connectors ++ '/' :: name.toList) ↔ IsTarget name.toList := by
    rw [isTarget_append_iff hquestion hhash, and_iff_right hpath]
    have hslash : IsTarget (['/'] ++ name.toList) ↔ _ :=
      isTarget_append_iff (by decide) (by decide)
    exact hslash.trans (and_iff_right (List.forall_mem_singleton.2 (by decide)))
  have hbefore : beforeQuery (u.connectors ++ '/' :: name.toList) =
      u.connectors ++ '/' :: beforeQuery name.toList := by
    have hslash : beforeQuery (['/'] ++ name.toList) = ['/'] ++ beforeQuery name.toList :=
      beforeQuery_append (by decide) (by decide) _
    rw [beforeQuery_append hquestion hhash]
    exact congrArg _ hslash
  have hok := fun sent => ofText_eq_ok_iff_of_begins hbegins (hfollows _)
    (toList_entryUrl hbegins hbase name) (u := sent)
  simp only [targetOf_eq_ok_iff, htarget] at hok
  refine ⟨?_, fun sent hsent => ?_⟩
  · rw [Except.isOk_iff]
    constructor
    · rintro ⟨sent, hsent⟩
      obtain ⟨hsize, -, ⟨hname, -⟩, -⟩ := (hok sent).1 hsent
      exact ⟨hsize, hname⟩
    · rintro ⟨hsize, hname⟩
      exact ⟨_, (hok _).2 ⟨hsize, _, ⟨hname, rfl⟩, rfl⟩⟩
  · obtain ⟨-, _, ⟨-, rfl⟩, rfl⟩ := (hok sent).1 hsent
    rw [path, String.toList_ofList, ← hbefore, beforeQuery]

/-- A deletion is sent to the entry that the name stands for up to its first question mark or hash
sign, if that is one segment. -/
theorem deletes_iff_of_sends (hserver : servers.get? a.server = some base) (hbase : IsBase base u)
    {h : Host} {r : Request} (hsends : (servers.deleteConnector a).Sends h r)
    {name : List UInt8} :
    r.Deletes u.connectors name ↔
      '/' ∉ beforeQuery a.name.toList ∧ decoded (beforeQuery a.name.toList) = name := by
  obtain ⟨hurl, rfl⟩ := (deleteConnector_sends_iff hserver).1 hsends
  obtain ⟨sent, hsent⟩ := Except.isOk_iff.1 hurl
  have hpath := (ofText_entryUrl_iff hbase a.name).2 sent hsent
  rw [← leadsTo_iff hpath]
  constructor
  · rintro ⟨_, other, ⟨⟩, hother, hleads⟩
    rw [hsent] at hother
    cases hother
    exact hleads
  · exact fun hleads => ⟨_, sent, rfl, hsent, hleads⟩

/-- **What is deleted.** Let an artefact have a server whose base URL ends in a path. Deleting it
deletes the connector of its name if and only if the name is a segment of a path as it stands, and
the URL is not too long. Whatever else a deletion is sent for, it deletes the entry that the name
stands for up to its first question mark or hash sign, or none if that is no segment. So artefacts
of one server delete the same connector only if they have the same name, as long as their names are
segments. -/
theorem deletes_own_iff (hserver : servers.get? a.server = some base) (hbase : IsBase base u)
    (h : Host) :
    ((∃ r, (servers.deleteConnector a).Sends h r ∧
        r.Deletes u.connectors (octets a.name.toList)) ↔
      IsSegment a.name.toList ∧ (entryUrl base a.name).utf8ByteSize ≤ greatestSize) ∧
    (∀ r, (servers.deleteConnector a).Sends h r → ∀ name, r.Deletes u.connectors name ↔
      '/' ∉ beforeQuery a.name.toList ∧ decoded (beforeQuery a.name.toList) = name) ∧
    ∀ b h' r r', b.server = a.server → (servers.deleteConnector a).Sends h r →
      (servers.deleteConnector b).Sends h' r' → IsSegment a.name.toList →
      IsSegment b.name.toList →
      ((∃ name, r.Deletes u.connectors name ∧ r'.Deletes u.connectors name) ↔
        a.name = b.name) := by
  refine ⟨?_, fun r hr name => deletes_iff_of_sends hserver hbase hr, ?_⟩
  · rw [isSegment_iff]
    constructor
    · rintro ⟨r, hr, hdeletes⟩
      obtain ⟨hsize, htarget⟩ := (ofText_entryUrl_iff hbase a.name).1.1
        ((deleteConnector_sends_iff hserver).1 hr).1
      exact ⟨⟨htarget, (deletes_iff_of_sends hserver hbase hr).1 hdeletes⟩, hsize⟩
    · rintro ⟨⟨htarget, hdecoded⟩, hsize⟩
      have hr : (servers.deleteConnector a).Sends h (.delete (entryUrl base a.name)) :=
        (deleteConnector_sends_iff hserver).2
          ⟨(ofText_entryUrl_iff hbase a.name).1.2 ⟨hsize, htarget⟩, rfl⟩
      exact ⟨_, hr, (deletes_iff_of_sends hserver hbase hr).2 hdecoded⟩
  · intro b h' r r' hsame hr hr' ha hb
    have hstands {name : String} (hname : IsSegment name.toList) :
        decoded (beforeQuery name.toList) = octets name.toList := (isSegment_iff.1 hname).2.2
    simp only [deletes_iff_of_sends hserver hbase hr,
      deletes_iff_of_sends (hsame ▸ hserver) hbase hr', hstands ha, hstands hb,
      (isSegment_iff.1 ha).2.1, (isSegment_iff.1 hb).2.1, not_false_eq_true, true_and]
    constructor
    · rintro ⟨_, rfl, hname⟩
      exact (String.toList_injective (octets_injective hname)).symm
    · intro hname
      exact ⟨_, rfl, by rw [hname]⟩

end ConnectServers

/-! ## A name with a hash sign -/

namespace Hashed

/-- One server, by its alias. -/
def servers : ConnectServers := .ofPairs [("primary", "http://connect:8083/")]

/-- The base URL of that server. -/
def base : Url := ⟨"http", "connect:8083", "/"⟩

/-- A connector of that server. -/
def artefact (name : String) : Artefact := ⟨"primary", name, "sink.json"⟩

theorem get?_servers (name : String) :
    OrderedMap.get? servers (artefact name).server = some "http://connect:8083/" := by
  show OrderedMap.get? servers "primary" = _
  decide +kernel

theorem isBase : Url.IsBase "http://connect:8083/" base :=
  ⟨Except.toOption_eq_some_iff.1 (by decide +kernel), by decide +kernel, by decide +kernel⟩

/-- A host that reaches no server. -/
def host : Host where
  files := ⟨[]⟩
  environment := ⟨[], none⟩
  searchPath := []
  tools := fun _ _ => .failure "timed out"
  servers := fun _ _ => .unreachable "timed out"
  clock := default
  consent := none
  output := ""
  calls := []

/-- What is sent to delete the connector of a name. -/
def delete (name : String) : Request :=
  .delete (ConnectServers.entryUrl "http://connect:8083/" name)

theorem sends {name : String}
    (hurl : (Url.ofText (ConnectServers.entryUrl "http://connect:8083/" name)).isOk = true) :
    (servers.deleteConnector (artefact name)).Sends host (delete name) :=
  (ConnectServers.deleteConnector_sends_iff (get?_servers name)).2 ⟨hurl, rfl⟩

theorem sends_sink : (servers.deleteConnector (artefact "sink")).Sends host (delete "sink") :=
  sends (by decide +kernel)

theorem sends_hashed :
    (servers.deleteConnector (artefact "sink#1")).Sends host (delete "sink#1") :=
  sends (by decide +kernel)

/-- One connector has the name of another one up to a hash sign. Deleting its artefact does not
delete it but the other one, and so does deleting the artefact of the other one. -/
theorem deletes_other :
    OrderedMap.get? servers "primary" = some "http://connect:8083/" ∧
      Url.IsBase "http://connect:8083/" base ∧
      (servers.deleteConnector (artefact "sink#1")).Sends host (delete "sink#1") ∧
      (servers.deleteConnector (artefact "sink")).Sends host (delete "sink") ∧
      ¬(delete "sink#1").Deletes base.connectors (Url.octets "sink#1".toList) ∧
      (delete "sink#1").Deletes base.connectors (Url.octets "sink".toList) ∧
      (delete "sink").Deletes base.connectors (Url.octets "sink".toList) := by
  have hiff {name : String} {entry : List UInt8}
      (hsends : (servers.deleteConnector (artefact name)).Sends host (delete name)) :
      (delete name).Deletes base.connectors entry ↔ '/' ∉ Url.beforeQuery name.toList ∧
        Url.decoded (Url.beforeQuery name.toList) = entry :=
    ConnectServers.deletes_iff_of_sends (get?_servers name) isBase hsends
  refine ⟨get?_servers "sink", isBase, sends_hashed, sends_sink, ?_, ?_, ?_⟩
  · rw [hiff sends_hashed]
    decide +kernel
  · rw [hiff sends_hashed]
    decide +kernel
  · rw [hiff sends_sink]
    decide +kernel

end Hashed

/-- A name without any sign that means something in a path: what is deleted is the connector of that
name, and no deletion for another such name deletes it. -/
theorem ConnectServers.deletes_own_iff_plain :
    OrderedMap.get? Hashed.servers (Hashed.artefact "sink").server = some "http://connect:8083/" ∧
      Url.IsBase "http://connect:8083/" Hashed.base ∧
      (∃ r, (Hashed.servers.deleteConnector (Hashed.artefact "sink")).Sends Hashed.host r ∧
        r.Deletes Hashed.base.connectors (Url.octets "sink".toList)) ∧
      Url.IsSegment "sink".toList ∧ Url.IsSegment "jdbc-sink".toList ∧
      ¬∃ name, (Hashed.delete "sink").Deletes Hashed.base.connectors name ∧
        (Hashed.delete "jdbc-sink").Deletes Hashed.base.connectors name := by
  have hsink : Url.IsSegment "sink".toList := by decide +kernel
  have hother : Url.IsSegment "jdbc-sink".toList := by decide +kernel
  have hsends : (Hashed.servers.deleteConnector (Hashed.artefact "jdbc-sink")).Sends Hashed.host
      (Hashed.delete "jdbc-sink") := Hashed.sends (by decide +kernel)
  obtain ⟨hown, -, hpairs⟩ :=
    deletes_own_iff (Hashed.get?_servers "sink") Hashed.isBase Hashed.host
  have hsame := hpairs (Hashed.artefact "jdbc-sink") Hashed.host _ _ rfl Hashed.sends_sink hsends
    hsink hother
  exact ⟨Hashed.get?_servers "sink", Hashed.isBase, hown.2 ⟨hsink, by decide +kernel⟩, hsink,
    hother, mt hsame.1 (by decide)⟩

end KafkaTopology
