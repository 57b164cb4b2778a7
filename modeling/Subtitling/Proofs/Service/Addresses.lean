import Subtitling.Proofs.Service.Session
import Subtitling.Proofs.Web.Base

/-!
The addresses of a service. A client puts each path of the service behind its base, so that an id is
read as a part of an address: slashes and dots in it may lead away from the jobs. Where a task can
be submitted there is an address for every job, unless its id is too long for one, and an address
for translating at once, which no id without slashes leads to.
-/

namespace Subtitling.Web

/-- A text of plain segments, which an address keeps as it is wherever it goes. -/
structure IsPlainText (rest : List Char) (parts : List (List Char)) : Prop where
  cleaned : cleanedBack rest = rest
  no_fragment : cutAt '#' rest = (rest, none)
  no_query : cutAt '?' rest = (rest, none)
  in_fragment : percentEncode inFragmentSet rest = rest
  in_query : ∀ scheme, percentEncode (querySet scheme) rest = rest
  split : Text.splitWhen isSlash rest = parts
  resolved : ∀ before, resolveDots false before parts = before.reverse ++ parts
  joined : parts.flatMap ('/' :: ·) = '/' :: rest

/-- A plain text ends an address, and nothing before it depends on it. So two plain texts behind
one base give addresses that differ only in these texts. -/
theorem Placed.exists_behind {read : List Char → Option Address} (h : Placed read) :
    ∃ front, ∀ rest parts a, IsPlainText rest parts → read rest = some a →
      isWebScheme a.scheme = true → a.behind = front ++ '/' :: rest := by
  cases h with
  | nowhere hnot =>
    refine ⟨[], fun rest parts a _ ha hweb => ?_⟩
    rw [hnot rest a ha] at hweb
    cases hweb
  | inFragment found front hread =>
    refine ⟨{ found with fragment := some front }.behind, fun rest parts a hplain ha _ => ?_⟩
    rw [hread, hplain.cleaned, hplain.in_fragment] at ha
    cases ha
    simp [Address.behind, Address.target]
  | inQuery found front hread =>
    refine ⟨{ found with query := some front, fragment := none }.behind,
      fun rest parts a hplain ha _ => ?_⟩
    simp only [hread, hplain.cleaned, hplain.no_fragment, hplain.in_query] at ha
    cases ha
    simp [Address.behind, Address.target]
  | inPath found host_ne before hread =>
    refine ⟨before.reverse.flatMap ('/' :: ·), fun rest parts a hplain ha _ => ?_⟩
    simp only [hread, hplain.cleaned, hplain.no_fragment, hplain.no_query, hplain.split,
      hplain.resolved] at ha
    cases ha
    simp [Address.behind, Address.target, Path.chars, hplain.joined]

theorem mem_of_mem_cutAt (mark : Char) (cs : List Char) (c : Char) (h : c ∈ (cutAt mark cs).1) :
    c ∈ cs := by
  rcases cutAt_cases mark cs with ⟨-, hcut⟩ | ⟨front, rest, -, rfl, hcut⟩
  · rwa [hcut] at h
  · rw [hcut] at h
    exact List.mem_append_left _ h

/-- The last segment of a path goes up at most one segment. -/
theorem resolveDots_two (before : List (List Char)) (name last : List Char)
    (hname : isDoubleDot name = false ∧ isDot name = false)
    (hkept : beginsWithDrive (percentEncode inPathSet name) = false) :
    ∃ parts, resolveDots false before [name, last] = before.reverse ++ parts ∧
      (parts = [[]] ∨ ∃ other, parts = [percentEncode inPathSet name, other]) := by
  have hfirst : resolveDots false before [name, last] =
      resolveDots false (percentEncode inPathSet name :: before) [last] := by
    simp [resolveDots, hname]
  rw [hfirst]
  by_cases hdouble : isDoubleDot last = true
  · exact ⟨[[]], by simp [resolveDots, hdouble, shorten, hkept], .inl rfl⟩
  · by_cases hdot : isDot last = true
    · exact ⟨_, by simp [resolveDots, hdouble, hdot], .inr ⟨[], rfl⟩⟩
    · exact ⟨_, by simp [resolveDots, hdouble, hdot], .inr ⟨percentEncode inPathSet last, rfl⟩⟩

end Subtitling.Web

namespace Subtitling.Service.Client

open Web (isSlash)

/-- The address that a text has behind the front of all paths of the service. -/
def behindApi (c : Client) (rest : List Char) : Option Web.Address :=
  Web.Address.parse?
    (String.ofList (c.baseUrl.toList ++ "/api".toList ++ '/' :: "v1".toList ++ '/' :: rest))

theorem placed_behindApi (c : Client) : Web.Placed c.behindApi :=
  Web.placed_parse _ "v1".toList (by decide) (List.all_eq_true.mp rfl)

/-- Where a path of the service leads to. Every such path begins with the same front, so that all
depends on what stands behind it; no requests go to a base without text, nor to an address that
they cannot name. -/
theorem isAddress_iff (c : Client) (path : String) (rest : List Char) (a : Web.Address)
    (hpath : path.toList = "/api/v1/".toList ++ rest) : c.IsAddress path a ↔
      c.baseUrl ≠ "" ∧ (∃ raw, c.behindApi rest = some raw ∧ raw.withoutCredentials = a) ∧
        a.isReachable = true := by
  have htext : c.baseUrl ++ path =
      String.ofList (c.baseUrl.toList ++ "/api".toList ++ '/' :: "v1".toList ++ '/' :: rest) := by
    rw [← String.toList_inj, String.toList_append, String.toList_ofList, hpath]
    simp
  have hparse : (Web.Address.parse? (c.baseUrl ++ path)).map Web.Address.withoutCredentials =
      some a ↔ ∃ raw, c.behindApi rest = some raw ∧ raw.withoutCredentials = a := by
    rw [htext, Option.map_eq_some_iff]
    rfl
  constructor
  · rintro ⟨hbase, hfound, hreachable⟩
    exact ⟨hbase, hparse.mp hfound, hreachable⟩
  · rintro ⟨hbase, hfound, hreachable⟩
    exact ⟨hbase, hparse.mpr hfound, hreachable⟩

theorem isPlainText_submit : Web.IsPlainText "jobs/translate/content".toList
    ["jobs".toList, "translate".toList, "content".toList] where
  cleaned := by decide
  no_fragment := by decide
  no_query := by decide
  in_fragment := by decide
  in_query scheme := by
    simp only [Web.querySet]
    split <;> decide
  split := by decide
  resolved before := by simp [Web.resolveDots, Web.isDoubleDot, Web.isDot, Web.plainDots]; decide
  joined := by decide

theorem isPlainText_sync : Web.IsPlainText "translate/content".toList
    ["translate".toList, "content".toList] where
  cleaned := by decide
  no_fragment := by decide
  no_query := by decide
  in_fragment := by decide
  in_query scheme := by
    simp only [Web.querySet]
    split <;> decide
  split := by decide
  resolved before := by simp [Web.resolveDots, Web.isDoubleDot, Web.isDot, Web.plainDots]; decide
  joined := by decide

section
variable (c : Client) (a : Web.Address)

/-- Where a task can be submitted there is an address for translating at once, on the same host. It
is another one than that of submissions. -/
theorem exists_sync_address (h : c.IsAddress "/api/v1/jobs/translate/content" a) :
    ∃ b, c.IsAddress "/api/v1/translate/content" b ∧ b ≠ a := by
  obtain ⟨hbase, ⟨raw, hraw, rfl⟩, hreachable⟩ :=
    (c.isAddress_iff _ "jobs/translate/content".toList a (by decide)).mp h
  have hweb := raw.isWebScheme_of_isReachable hreachable
  obtain ⟨other, hother, hsame⟩ :=
    c.placed_behindApi.exists_sameHost _ "translate/content".toList raw hraw hweb
  obtain ⟨front, hfront⟩ := c.placed_behindApi.exists_behind
  have hsubmit := hfront _ _ raw isPlainText_submit hraw hweb
  have hsync := hfront _ _ other isPlainText_sync hother (hsame.scheme ▸ hweb)
  have hshorter : (String.ofList other.withoutCredentials.behind).utf8ByteSize ≤
      (String.ofList raw.withoutCredentials.behind).utf8ByteSize := by
    rw [Web.Address.behind_withoutCredentials, Web.Address.behind_withoutCredentials, hsubmit,
      hsync, String.ofList_append, String.ofList_append, String.utf8ByteSize_append,
      String.utf8ByteSize_append]
    exact Nat.add_le_add_left (by decide) _
  have hshort := hsame.withoutCredentials.utf8ByteSize_text_le hshorter
  have hlong : raw.withoutCredentials.text.utf8ByteSize ≤ Web.Address.longestText := by
    simp only [Web.Address.isReachable, Bool.and_eq_true, decide_eq_true_eq] at hreachable
    exact hreachable.2
  refine ⟨other.withoutCredentials, (c.isAddress_iff _ "translate/content".toList _
    (by decide)).mpr ⟨hbase, ⟨other, hother, rfl⟩,
      hsame.withoutCredentials.isReachable (Nat.le_trans hshort hlong) hreachable⟩, fun heq => ?_⟩
  have hbehind := congrArg Web.Address.behind heq
  rw [Web.Address.behind_withoutCredentials, Web.Address.behind_withoutCredentials, hsubmit, hsync,
    List.append_cancel_left_eq] at hbehind
  exact absurd hbehind (by decide)

end

/-- Cleaning takes nothing from the front of the path of a job, so that only the id is changed. -/
theorem cleanedBack_job (id : List Char) :
    Web.cleanedBack ("jobs".toList ++ '/' :: id) = "jobs/".toList ++ Web.cleanedBack id := by
  have hfront : "jobs".toList.filter (fun c => !(c = '\t' || c = '\n' || c = '\r')) =
      "jobs".toList := by decide
  rw [Web.cleanedBack_append_slash, hfront]
  rfl

/-- Behind a segment for the jobs, a last one without slashes leaves that segment in front of it, or
takes it away with nothing in its place. -/
theorem exists_resolveDots_job (before : List (List Char)) (last : List Char)
    (hlast : ∀ x ∈ last, isSlash x = false) :
    ∃ parts, Web.resolveDots false before (Text.splitWhen isSlash ("jobs/".toList ++ last)) =
        before.reverse ++ parts ∧
      (parts = [[]] ∨ ∃ other, parts = ["jobs".toList, other]) := by
  have hsplit : Text.splitWhen isSlash ("jobs/".toList ++ last) = ["jobs".toList, last] := by
    have hnames := Text.splitWhen_append_cons isSlash "jobs".toList last '/' rfl
    rwa [Text.splitWhen_of_none isSlash last hlast] at hnames
  have hkept : Web.percentEncode Web.inPathSet "jobs".toList = "jobs".toList := by decide
  obtain ⟨parts, hresolved, hparts⟩ :=
    Web.resolveDots_two before "jobs".toList last (by decide) (by decide)
  rw [hkept] at hparts
  exact ⟨parts, hsplit ▸ hresolved, hparts⟩

/-- An id without slashes of either kind never leads to where lines are translated at once, unless
the base has a fragment, of which requests know nothing. In a query and in a path the two addresses
differ by the jobs that stand in one of them, or by the name that the other one ends in. -/
theorem job_target_ne (c : Client) (id : String) (a b : Web.Address)
    (ha : c.IsAddress ("/api/v1/jobs/" ++ id) a) (hb : c.IsAddress "/api/v1/translate/content" b)
    (hid : ∀ x ∈ id.toList, isSlash x = false) (hfragment : b.fragment = none) :
    a.target ≠ b.target := by
  obtain ⟨-, ⟨rawA, hrawA, rfl⟩, hreachable⟩ :=
    (c.isAddress_iff _ ("jobs".toList ++ '/' :: id.toList) a (by simp)).mp ha
  obtain ⟨-, ⟨rawB, hrawB, rfl⟩, -⟩ :=
    (c.isAddress_iff _ "translate/content".toList b (by decide)).mp hb
  have hweb := rawA.isWebScheme_of_isReachable hreachable
  rw [rawB.fragment_withoutCredentials] at hfragment
  rw [rawA.target_withoutCredentials, rawB.target_withoutCredentials, Web.Address.target,
    Web.Address.target, ne_eq, String.ofList_inj]
  have hcut (mark : Char) (rest : List Char) (hmark : mark ∉ "jobs/".toList) :=
    Web.cutAt_append_of_not_mem mark "jobs/".toList rest hmark
  cases c.placed_behindApi with
  | nowhere hnot =>
    rw [hnot _ rawA hrawA] at hweb
    cases hweb
  | inFragment found front hread =>
    rw [hread] at hrawB
    cases hrawB
    cases hfragment
  | inQuery found front hread =>
    have hjobs : Web.percentEncode (Web.querySet found.scheme) "jobs/".toList =
        "jobs/".toList := by
      simp only [Web.querySet]
      split <;> decide
    simp only [hread, isPlainText_sync.cleaned, isPlainText_sync.no_fragment,
      isPlainText_sync.in_query] at hrawB
    simp only [hread, cleanedBack_job, hcut '#' _ (by decide), Web.percentEncode_append,
      hjobs] at hrawA
    cases hrawA
    cases hrawB
    simp
  | inPath found host_ne before hread =>
    obtain ⟨parts, hresolved, hparts⟩ := exists_resolveDots_job before
      (Web.cutAt '?' (Web.cutAt '#' (Web.cleanedBack id.toList)).1).1 fun x hx =>
        hid x (Web.mem_of_mem_cleanedBack _ _
          (Web.mem_of_mem_cutAt _ _ _ (Web.mem_of_mem_cutAt _ _ _ hx)))
    simp only [hread, isPlainText_sync.cleaned, isPlainText_sync.no_fragment,
      isPlainText_sync.no_query, isPlainText_sync.split, isPlainText_sync.resolved] at hrawB
    simp only [hread, cleanedBack_job, hcut '#' _ (by decide), hcut '?' _ (by decide),
      hresolved] at hrawA
    cases hrawA
    cases hrawB
    rcases hparts with rfl | ⟨other, rfl⟩
    · cases (Web.cutAt '?' (Web.cutAt '#' (Web.cleanedBack id.toList)).1).2 <;>
        simp [Web.Path.chars]
    · simp [Web.Path.chars]

end Subtitling.Service.Client
