import TicketLogin.Proofs.CommandLine.LifeCycle
import TicketLogin.Proofs.Session.Masking

/-!
# A look at the session hides the token

A look at the session shows the identity and the masked token, and nothing of the authorization
value. So what is behind the first twelve bytes of a long token makes no difference to what it
prints.
-/

namespace TicketLogin.CommandLine

section

variable {s s' : Surroundings} {a b : Session} {arguments : List String}

theorem standing_of_resembles (hpath : s.sessionPath = s'.sessionPath) (h : a.Resembles b) :
    standing s (some a) = standing s' (some b) := by
  rw [standing, standing, h.identity, h.masked_eq, hpath]

theorem run_status_of_read {kept : Option Session} (hread : s.medium.read = .ok kept)
    (hstatus : Invocation.ofArguments arguments = .run .status) :
    run s arguments = .printing s.disk (standing s kept) :=
  (run_command hstatus).trans (status_of_read hread)

end

/-- No token is cut through a character when it is masked: it shows nothing, or its first twelve
bytes with at least five more behind them. So two homes in which the session that is read has the
same identity and a long token with the same twelve bytes look the same. -/
theorem hidden_bytes_unseen :
    (∀ token : String,
      AccessToken.cutOut? token = some (AccessToken.masked token) ∧
      (AccessToken.masked token = "***" ∨
        AccessToken.bytes (AccessToken.masked token) =
            (AccessToken.bytes token).take 12 ++ AccessToken.bytes "..." ∧
          5 ≤ ((AccessToken.bytes token).drop 12).length)) ∧
    ∀ (s s' : Surroundings) (a b : Session) (arguments : List String),
      s.sessionPath = s'.sessionPath →
      s.medium.read = .ok (some a) → s'.medium.read = .ok (some b) → a.Resembles b →
      Invocation.ofArguments arguments = .run .status →
      (run s arguments).printed = (run s' arguments).printed ∧
      (run s arguments).complaints = (run s' arguments).complaints ∧
      (run s arguments).verdict.exitCode = (run s' arguments).verdict.exitCode := by
  refine ⟨fun token => ⟨AccessToken.cutOut?_eq_masked token, AccessToken.masked_shows token⟩, ?_⟩
  intro s s' a b arguments hpath ha hb hresembles hstatus
  rw [run_status_of_read ha hstatus, run_status_of_read hb hstatus]
  exact ⟨standing_of_resembles hpath hresembles, rfl, rfl⟩

def accentedSession : Session := ⟨"Bearer 1", "0123456789é-hidden", ⟨none, "Ann", ""⟩⟩

def emojiSession : Session := ⟨"Basic x", "0123456789é😀😀", ⟨none, "Ann", ""⟩⟩

def homeKeeping (content : List Char) : Surroundings :=
  let file := Entry.file (Utf8.encode content) Disk.privateMode
  .inHome "<TMP>/home" ⟨[(["home"], .folder), (["home", "session.json"], file)]⟩ (fun _ => none)
    .offline

def accentedHome : Surroundings := homeKeeping (Items.empty.putSession accentedSession).text

/-- Beside an item of another writer, with the identity as a list of its values. -/
def emojiHome : Surroundings := homeKeeping (Json.compact
  [("lng", "zh"), ("userInfo", "[null,\"Ann\"]"), ("Token", "0123456789é😀😀"),
    ("Authorization", "Basic x")])

theorem accented_and_emoji_unseen :
    accentedHome.medium.read = .ok (some accentedSession) ∧
    emojiHome.medium.read = .ok (some emojiSession) ∧
    accentedSession.Resembles emojiSession ∧
    (run emojiHome ["status"]).printed =
      ["Logged in as Ann", "  Token: 0123456789é...", "  Session file: <TMP>/home/session.json"] ∧
    (run accentedHome ["status"]).printed = (run emojiHome ["status"]).printed ∧
    (run accentedHome ["status"]).complaints = (run emojiHome ["status"]).complaints ∧
    (run accentedHome ["status"]).verdict.exitCode =
      (run emojiHome ["status"]).verdict.exitCode := by
  have haccented : accentedHome.medium.read = .ok (some accentedSession) := by decide +kernel
  have hemoji : emojiHome.medium.read = .ok (some emojiSession) := by decide +kernel
  have hresembles : accentedSession.Resembles emojiSession := by
    constructor <;> decide +kernel
  refine ⟨haccented, hemoji, hresembles, by decide +kernel, ?_⟩
  exact hidden_bytes_unseen.2 accentedHome emojiHome accentedSession emojiSession ["status"] rfl
    haccented hemoji hresembles (by decide +kernel)

end TicketLogin.CommandLine
