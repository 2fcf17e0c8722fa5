import HireSettle.Auth.Sessions
import HireSettle.Workflow.Facts

/-! Reuse of a refresh token. It is detected before the rotation, where the family
is revoked, or inside it, where the revocation is rolled back together with the
transaction. The second detection is harmless when the family is dead already. -/
namespace HireSettle.Auth
open Workflow

abbrev AuthEvent := Event Site Answer World

abbrev AuthSnapshot := Snapshot Site Answer World

abbrev AuthPool := Pool Request Site Answer World Exception Reply

abbrev AuthMove := Move Request Nat Answer

def Dead (w : World) (family : String) : Prop :=
  (∃ row ∈ w.tokens.rows, row.familyId = family) ∧
  ∀ row ∈ w.tokens.rows, row.familyId = family → row.live = false

/-- The call by which a refresh of this family finds out about a reuse. -/
def Detects (family : String) (e : AuthEvent) : Prop :=
  e.answer.fails = false ∧
  (e.site = .revokeFamily family ∨
    ∃ id row, e.site = .rotate id ∧ e.before.tokens.get? id = some row ∧ row.familyId = family ∧ row.live = false)

/-- The transaction by which a token of this family is exchanged. -/
def Exchanges (family : String) (e : AuthEvent) : Prop :=
  ∃ id row, e.site = .rotate id ∧ e.before.tokens.get? id = some row ∧ row.familyId = family ∧
    e.after.tokens.rows ≠ e.before.tokens.rows

def FreshFamily (e : AuthEvent) : Prop :=
  ∀ family, e.site = .createSession family → ∀ row ∈ e.before.tokens.rows, row.familyId ≠ family

/-- A rotation that meets a consumed or revoked token finds no live one in the family. -/
def ReusesDead (e : AuthEvent) : Prop :=
  ∀ id row, e.site = .rotate id → e.answer.fails = false → e.before.tokens.get? id = some row → row.live = false →
    ∀ other ∈ e.before.tokens.rows, other.familyId = row.familyId → other.live = false

section Rows

/-- Rows keep their hash, id and family, and no row of a dead family comes alive. -/
structure Ages (w w' : World) : Prop where
  stored : ∀ hash row, storedToken w hash = some row →
    ∃ row', storedToken w' hash = some row' ∧ row'.id = row.id ∧ row'.familyId = row.familyId
  dead : ∀ family, Dead w family → Dead w' family

theorem agesStay {w w' : World} (same : w'.tokens = w.tokens) : Ages w w' := by
  constructor
  · intro hash row found
    exact ⟨row,by rw [← found,storedToken,storedToken,same],rfl,rfl⟩
  · intro family dead
    rwa [Dead,same]

theorem agesUpdate {w : World} {p : RefreshToken → Bool} {f : RefreshToken → RefreshToken}
    {keeps : ∀ r, Keyed.key (f r) = Keyed.key r}
    (same : ∀ r, (f r).tokenHash = r.tokenHash ∧ (f r).familyId = r.familyId)
    (retires : ∀ r, (f r).live = true → r.live = true) :
    Ages w { w with tokens := w.tokens.updateMany p f keeps } := by
  constructor
  · intro hash row found
    refine ⟨if p row then f row else row,?_,?_,?_⟩
    · rw [storedToken,Table.findFirstUpdateMany _ keeps (fun r => by rw [(same r).1]),← storedToken,found]
      rfl
    · split
      · exact keeps row
      · rfl
    · split
      · exact (same row).2
      · rfl
  · rintro family ⟨⟨row,inside,mine⟩,dead⟩
    have moved : (if p row then f row else row) ∈ (w.tokens.updateMany p f keeps).rows :=
      (Table.memUpdateMany keeps).mpr ⟨row,inside,rfl⟩
    refine ⟨⟨_,moved,?_⟩,?_⟩
    · split
      · exact (same row).2.trans mine
      · exact mine
    · intro row' inside' mine'
      obtain ⟨r,there,rfl⟩ := (Table.memUpdateMany keeps).mp inside'
      cases matched : p r with
      | false =>
        simp only [matched,Bool.false_eq_true,if_false] at mine' ⊢
        exact dead r there mine'
      | true =>
        simp only [matched,if_true] at mine' ⊢
        have still := dead r there ((same r).2 ▸ mine')
        by_contra alive
        rw [retires r (by simpa using alive)] at still
        contradiction

theorem createTokenCases {row : RefreshToken} {w w' : World} (created : createToken row w = .ok ((),w')) :
    storedToken w row.tokenHash = none ∧ ∃ tokens, w.tokens.create row = some tokens ∧ w' = { w with tokens := tokens } := by
  unfold createToken at created
  split at created <;> try contradiction
  rename_i free
  split at created <;> try contradiction
  rename_i tokens made
  cases created
  exact ⟨by simpa using free,tokens,made,rfl⟩

theorem createTokenThrows {row : RefreshToken} {w : World} {error : Exception}
    (failed : createToken row w = .error error) : error = .uniqueViolation := by
  unfold createToken at failed
  split at failed
  · exact (Except.error.inj failed).symm
  · split at failed
    · exact (Except.error.inj failed).symm
    · cases failed

theorem createStored {row : RefreshToken} {w : World} {tokens : Table RefreshToken}
    (made : w.tokens.create row = some tokens) {hash : String} {old : RefreshToken}
    (found : storedToken w hash = some old) : storedToken { w with tokens := tokens } hash = some old := by
  rw [storedToken,Table.findFirstCreate made,← storedToken,found,Option.some_or]

theorem createDead {row : RefreshToken} {w : World} {tokens : Table RefreshToken}
    (made : w.tokens.create row = some tokens) {family : String} (other : row.familyId ≠ family)
    (dead : Dead w family) : Dead { w with tokens := tokens } family := by
  obtain ⟨⟨old,inside,mine⟩,none⟩ := dead
  refine ⟨⟨old,(Table.memCreate made).mpr (Or.inl inside),mine⟩,fun r there mine => ?_⟩
  rcases (Table.memCreate made).mp there with before | rfl
  · exact none r before mine
  · exact absurd mine other

theorem revokeFamilyAges (family : String) (now : Nat) {w w' : World}
    (revoked : revokeFamilyRows family now w = .ok ((),w')) : Ages w w' := by
  cases revoked
  exact agesUpdate (fun _ => ⟨rfl,rfl⟩) (fun r alive => by simp [RefreshToken.live] at alive)

theorem revokeFamilyDead {family : String} {now : Nat} {w w' : World}
    (revoked : revokeFamilyRows family now w = .ok ((),w'))
    (known : ∃ row ∈ w.tokens.rows, row.familyId = family) : Dead w' family := by
  cases revoked
  obtain ⟨row,inside,mine⟩ := known
  refine ⟨⟨_,List.mem_map_of_mem inside,?_⟩,?_⟩
  · split <;> exact mine
  · intro row' inside' mine'
    obtain ⟨r,there,rfl⟩ := List.mem_map.mp inside'
    cases revokedAt : r.revokedAt with
    | none =>
      have family' : r.familyId = family := by
        split at mine' <;> exact mine'
      simp [family',revokedAt,RefreshToken.live]
    | some at' => simp [revokedAt,RefreshToken.live]

/-- A rotation that commits consumes a live token and stores its successor. -/
theorem rotationCommits {self : Config} {rules : Rules} {stored : RefreshToken} {next id : String}
    {nextExpiresAt now clock : Nat} {w w' : World}
    (rotated : rotation self rules stored next nextExpiresAt now id w = .ok (clock,w')) :
    ∃ row tokens created, w.tokens.get? stored.id = some row ∧ row.live = true ∧
      created.familyId = stored.familyId ∧ Ages w { w with tokens := tokens } ∧
      createToken created { w with tokens := tokens } = .ok ((),w') := by
  obtain ⟨consumed,w₁,consume,rest⟩ := bodyCommits.mp rotated
  cases consume
  split at rest
  · obtain ⟨_,w₂,_,thrown⟩ := bodyCommits.mp rest
    obtain ⟨_,w₃,impossible,_⟩ := bodyCommits.mp thrown
    cases impossible
  · rename_i single
    have one : w.tokens.count (fun row => row.id = stored.id && row.live) = 1 := not_not.mp single
    obtain ⟨_,w₂,same,rest⟩ := bodyCommits.mp rest
    cases same
    obtain ⟨_,w₃,created,last⟩ := bodyCommits.mp rest
    cases last
    obtain ⟨k,row,found,matched⟩ := Table.countPos.mp (one ▸ Nat.one_pos)
    simp only [Bool.and_eq_true,decide_eq_true_eq] at matched
    have key : k = stored.id := (Table.getKey found).symm.trans matched.1
    refine ⟨row,_,_,key ▸ found,matched.2,?_,?_,created⟩
    · rfl
    · exact agesUpdate (fun _ => ⟨rfl,rfl⟩) (fun r alive => by simp [RefreshToken.live] at alive)

/-- A rotation that reports a reuse has found its token consumed or revoked. -/
theorem rotationDetects {self : Config} {rules : Rules} {stored row : RefreshToken} {next id : String}
    {nextExpiresAt now : Nat} {w : World} (found : w.tokens.get? stored.id = some row)
    (thrown : rotation self rules stored next nextExpiresAt now id w = .error reuseDetected) :
    row.live = false := by
  rcases bodyThrows.mp thrown with early | ⟨consumed,w₁,consume,rest⟩
  · cases early
  · cases consume
    split at rest
    · rename_i other
      have count := Table.countKey w.tokens stored.id RefreshToken.live
      simp only [found,Option.any_some] at count
      by_contra alive
      rw [if_pos (by simpa using alive)] at count
      exact other count
    · rcases bodyThrows.mp rest with early | ⟨_,w₂,same,rest⟩
      · cases early
      · cases same
        rcases bodyThrows.mp rest with failed | ⟨_,w₃,created,last⟩
        · cases createTokenThrows failed
        · cases last

theorem createAges {row : RefreshToken} {w w₁ w' : World} (ages : Ages w w₁)
    (alive : ¬ Dead w row.familyId) (created : createToken row w₁ = .ok ((),w')) : Ages w w' := by
  obtain ⟨_,tokens,made,rfl⟩ := createTokenCases created
  constructor
  · intro hash old found
    obtain ⟨old',found',same⟩ := ages.stored hash old found
    exact ⟨old',createStored made found',same⟩
  · intro family dead
    have other : row.familyId ≠ family := fun same => alive (same ▸ dead)
    exact createDead made other (ages.dead family dead)

end Rows

section Knowledge

inductive Fact where
  | stored (hash id family : String)
  | detected (family : String)

def Holds (c : AuthSnapshot) : Fact → Prop
  | .stored hash id family => ∃ row, storedToken c.world hash = some row ∧ row.id = id ∧ row.familyId = family
  | .detected family => ∃ d ∈ c.history, Detects family d

/-- A family in which a reuse was detected is dead, and nothing was exchanged since. -/
structure Lasting (c : AuthSnapshot) : Prop where
  dead : ∀ d ∈ c.history, ∀ family, Detects family d → Dead c.world family
  finished : AllMeet (fun earlier e => ∀ family, Exchanges family e → ∀ d ∈ earlier, ¬ Detects family d) c.history

def reuse : Knowledge Site Answer World Unit Fact where
  base c _ := Lasting c
  holds := Holds
  admits _ e := FreshFamily e ∧ ReusesDead e

variable {c : AuthSnapshot} {known : Multiset Fact}

def Keeps (c c' : AuthSnapshot) : Prop := Lasting c' ∧ reuse.Remembers c c'

theorem leaves {c' : AuthSnapshot} {frame : Unit} {done : Unit → Multiset Fact → Prop} (keeps : Keeps c c')
    (learns : reuse.Learns c' known (done ())) : reuse.Leaves c c' frame known done :=
  ⟨(),keeps.1,keeps.2,learns⟩

theorem keepsAges {w' : World} {thread : Nat} {site : Site} {i : Answer} (base : Lasting c)
    (ages : Ages c.world w')
    (detects : ∀ family, Detects family (c.event thread site i w') → Dead w' family)
    (exchanges : ∀ family, Exchanges family (c.event thread site i w') → ¬ Dead c.world family) :
    Keeps c (c.record thread site i w') := by
  refine ⟨⟨?_,?_,base.finished⟩,?_⟩
  · intro d inside family found
    rcases List.mem_cons.mp inside with rfl | earlier
    · exact detects family found
    · exact ages.dead family (base.dead d earlier family found)
  · intro family exchanged d earlier found
    exact exchanges family exchanged (base.dead d earlier family found)
  · intro fact true
    cases fact with
    | stored hash id family =>
      obtain ⟨row,found,rfl,rfl⟩ := true
      exact ages.stored hash row found
    | detected family =>
      obtain ⟨d,earlier,found⟩ := true
      exact ⟨d,List.mem_cons_of_mem _ earlier,found⟩

/-- Calls at these sites neither detect a reuse nor exchange a token. -/
def Site.quiet : Site → Bool
  | .rotate _ => false
  | .revokeFamily _ => false
  | _ => true

theorem keepsQuiet {w' : World} {thread : Nat} {site : Site} {i : Answer} (base : Lasting c)
    (quiet : site.quiet = true) (ages : Ages c.world w') : Keeps c (c.record thread site i w') := by
  refine keepsAges base ages ?_ ?_
  · rintro family ⟨_,revoked | ⟨id,row,rotated,_⟩⟩
    · cases (show site = .revokeFamily family from revoked)
      cases quiet
    · cases (show site = .rotate id from rotated)
      cases quiet
  · rintro family ⟨id,row,rotated,_⟩
    cases (show site = .rotate id from rotated)
    cases quiet

theorem safeQuiet {α : Type} {site : Site} {f : Answer → World → Except Exception α}
    {done : Except Exception α → Unit × Multiset Fact → Prop} (quiet : site.quiet = true)
    (answered : ∀ c i, reuse.Learns c known (fun known => done (f i c.world) ((),known))) :
    Safe reuse.contract done (Process.query site f) ((),known) :=
  Knowledge.safeQuery fun c _ thread i base _ _ =>
    leaves (keepsQuiet base quiet (agesStay rfl)) (answered (c.record thread site i c.world) i)

/-- What a refresh that reports a reuse knows. -/
def Caught {α : Type} (hash : String) (out : Except Exception α) (held : Unit × Multiset Fact) : Prop :=
  out = .error reuseDetected → ∃ id family, Fact.stored hash id family ∈ held.2 ∧ Fact.detected family ∈ held.2

theorem caughtOther {α : Type} {hash : String} {out : Except Exception α}
    (other : out ≠ .error reuseDetected) : Caught hash out ((),known) := fun same => absurd same other

theorem safeFindStored {hash : String}
    {done : Except Exception (Option (RefreshToken × User) × Nat) → Unit × Multiset Fact → Prop}
    (missing : ∀ now, done (.ok (none,now)) ((),known)) (failed : done (.error .database) ((),known))
    (found : ∀ stored user now,
      done (.ok (some (stored,user),now)) ((),.stored hash stored.id stored.familyId ::ₘ known)) :
    Safe reuse.contract done (findStored hash) ((),known) := by
  refine safeQuiet rfl fun c i => ?_
  split
  · exact Knowledge.learnsNothing failed
  · split
    · exact Knowledge.learnsNothing (missing _)
    · rename_i row there
      split
      · exact Knowledge.learnsNothing failed
      · rename_i user _
        exact Knowledge.learnsFact (.stored hash row.id row.familyId) ⟨row,there,rfl,rfl⟩ (found row user _)

theorem storedRow {hash id family : String} (holds : Holds c (.stored hash id family)) :
    ∃ row, c.world.tokens.get? id = some row ∧ row.familyId = family := by
  obtain ⟨row,found,rfl,rfl⟩ := holds
  exact ⟨row,(Table.findFirstGet found).1,rfl⟩

theorem safeRevokeFamily {hash id family : String} {now : Nat}
    {done : Except Exception Unit → Unit × Multiset Fact → Prop} (mine : .stored hash id family ∈ known)
    (failed : done (.error .database) ((),known)) (revoked : done (.ok ()) ((),.detected family ::ₘ known)) :
    Safe reuse.contract done (revokeFamily family now) ((),known) := by
  refine Knowledge.safeTransact ?_ ?_
  · intro c _ thread i value after base facts ok _
    split at ok <;> try contradiction
    rename_i answered
    have succeeded : i.fails = false := by simpa using answered
    obtain ⟨row,found,same⟩ := storedRow (facts _ mine)
    have dead := revokeFamilyDead ok ⟨row,Table.getMem found,same⟩
    refine leaves (keepsAges base (revokeFamilyAges family now ok) ?_ ?_) ?_
    · rintro other ⟨_,revoking | ⟨id',row',rotated,_⟩⟩
      · cases (show Site.revokeFamily family = .revokeFamily other from revoking)
        exact dead
      · cases (show Site.revokeFamily family = .rotate id' from rotated)
    · rintro other ⟨id',row',rotated,_⟩
      cases (show Site.revokeFamily family = .rotate id' from rotated)
    · exact Knowledge.learnsFact (.detected family) ⟨_,List.mem_cons_self,succeeded,Or.inl rfl⟩ revoked
  · intro c _ thread i error base facts thrown _
    split at thrown
    · rename_i failing
      cases thrown
      refine leaves (keepsAges base (agesStay rfl) ?_ ?_) (Knowledge.learnsNothing failed)
      · rintro other ⟨succeeded,_⟩
        exact absurd (show i.fails = false from succeeded) (by simp [failing])
      · rintro other ⟨id',row',rotated,_⟩
        cases (show Site.revokeFamily family = .rotate id' from rotated)
    · cases thrown

theorem safeRotate {self : Config} {rules : Rules} {stored : RefreshToken} {hash next : String}
    {nextExpiresAt now : Nat} (mine : .stored hash stored.id stored.familyId ∈ known) :
    Safe reuse.contract (Caught hash) (rotate self rules stored next nextExpiresAt now) ((),known) := by
  refine Knowledge.safeTransact ?_ ?_
  · intro c _ thread i value after base facts ok _
    split at ok <;> try contradiction
    obtain ⟨row,tokens,created,found,alive,family,ages,stores⟩ := rotationCommits ok
    obtain ⟨row',found',same⟩ := storedRow (facts _ mine)
    cases Option.some.inj (found.symm.trans found')
    have undead : ¬ Dead c.world row.familyId := fun dead => by
      simp [dead.2 row (Table.getMem found) rfl] at alive
    refine leaves (keepsAges base (createAges ages (by rwa [family,← same]) stores) ?_ ?_)
      (Knowledge.learnsNothing (caughtOther (by simp)))
    · rintro other ⟨_,revoking | ⟨id',row',rotated,found'',_,unlive⟩⟩
      · cases (show Site.rotate stored.id = .revokeFamily other from revoking)
      · cases (show Site.rotate stored.id = .rotate id' from rotated)
        cases Option.some.inj (found.symm.trans found'')
        simp [unlive] at alive
    · rintro other ⟨id',row',rotated,found'',rfl,_⟩
      cases (show Site.rotate stored.id = .rotate id' from rotated)
      cases Option.some.inj (found.symm.trans found'')
      exact undead
  · intro c _ thread i error base facts thrown meets
    obtain ⟨row,found,same⟩ := storedRow (facts _ mine)
    have keeps : Keeps c (c.record thread (.rotate stored.id) i c.world) := by
      refine keepsAges base (agesStay rfl) ?_ ?_
      · rintro other ⟨succeeded,revoking | ⟨id',row',rotated,found',rfl,unlive⟩⟩
        · cases (show Site.rotate stored.id = .revokeFamily other from revoking)
        · exact ⟨⟨row',Table.getMem found',rfl⟩,meets.2 id' row' rotated succeeded found' unlive⟩
      · rintro other ⟨_,_,_,_,_,changed⟩
        exact absurd rfl changed
    refine leaves keeps ?_
    split at thrown
    · cases thrown
      exact Knowledge.learnsNothing (caughtOther (by simp [reuseDetected]))
    · rename_i answered
      by_cases reused : error = reuseDetected
      · subst reused
        have unlive := rotationDetects found thrown
        have here : Detects stored.familyId (c.event thread (.rotate stored.id) i c.world) :=
          ⟨Bool.eq_false_of_not_eq_true answered,Or.inr ⟨stored.id,row,rfl,found,same,unlive⟩⟩
        exact Knowledge.learnsFact (.detected stored.familyId) ⟨_,List.mem_cons_self,here⟩
          fun _ => ⟨_,_,Multiset.mem_cons_of_mem mine,Multiset.mem_cons_self _ _⟩
      · exact Knowledge.learnsNothing (caughtOther (by simpa using reused))

theorem safeSign {self : Config} {user : User} {family : String} {done : Except Exception (String × Nat) → Unit × Multiset Fact → Prop}
    (failed : done (.error .jwt) ((),known)) (signed : ∀ token now, done (.ok (token,now)) ((),known)) :
    Safe reuse.contract done (signRefreshToken self user family) ((),known) := by
  refine safeQuiet rfl fun c i => Knowledge.learnsNothing ?_
  split
  · exact failed
  · exact signed _ _

theorem safeRefreshWith (self : Config) (rules : Rules) (token : String) (known : Multiset Fact) :
    Safe reuse.contract (Caught (self.hashRefreshToken token)) (refreshWith self rules token) ((),known) := by
  refine safeBind (safeFindStored (fun now => ?_) (caughtOther (by simp [reuseDetected])) ?_)
  · exact caughtOther (by simp [reuseDetected])
  · intro stored user now
    have mine : Fact.stored (self.hashRefreshToken token) stored.id stored.familyId ∈
        Fact.stored (self.hashRefreshToken token) stored.id stored.familyId ::ₘ known := Multiset.mem_cons_self _ _
    dsimp only
    split
    · refine safeBind (safeRevokeFamily mine ?_ ?_)
      · exact caughtOther (by simp [reuseDetected])
      · exact fun _ => ⟨_,_,Multiset.mem_cons_of_mem mine,Multiset.mem_cons_self _ _⟩
    · split
      · exact caughtOther (by simp [reuseDetected])
      · split
        · exact caughtOther (by simp [reuseDetected])
        · refine safeBind (safeSign (caughtOther (by simp [reuseDetected])) fun next signedAt => ?_)
          refine safeBind (safeMono ?_ (safeRotate mine))
          intro out learnt caught
          cases out with
          | ok clock => exact caughtOther (by simp)
          | error error => exact fun same => caught (by rw [Except.error.inj same])

theorem safeIssueWith (self : Config) (stampsUse : Bool) (user : User) :
    Safe reuse.contract anyEnd (issueWith self stampsUse user) 0 := by
  refine safeBind (safeQuiet rfl fun c i => Knowledge.learnsNothing ?_)
  refine safeBind (safeSign trivial fun token signedAt => ?_)
  refine safeThen (Knowledge.safeTransact ?_ ?_) (fun _ _ => trivial)
  · intro c _ thread j value after base facts ok meets
    split at ok <;> try contradiction
    obtain ⟨_,w₁,created,last⟩ := bodyCommits.mp ok
    cases last
    have undead : ¬ Dead c.world i.text := fun dead => by
      obtain ⟨row,inside,mine⟩ := dead.1
      exact meets.1 i.text rfl row inside mine
    exact leaves (keepsQuiet base rfl (createAges (agesStay rfl) undead created)) (Knowledge.learnsNothing trivial)
  · intro c _ thread j error base facts thrown _
    exact leaves (keepsQuiet base rfl (agesStay rfl)) (Knowledge.learnsNothing trivial)

theorem revokeRowAges (id : String) (now : Nat) (w : World) :
    Ages w { w with tokens := w.tokens.update id (fun row => { row with revokedAt := some now }) } :=
  agesUpdate (fun _ => ⟨rfl,rfl⟩) (fun r alive => by simp [RefreshToken.live] at alive)

theorem safeRevokeRow (id : String) (now : Nat) (known : Multiset Fact) :
    Safe reuse.contract anyEnd (revokeRow id now) ((),known) := by
  refine Knowledge.safeTransact ?_ ?_
  · intro c _ thread i value after base facts ok _
    split at ok <;> try contradiction
    split at ok <;> try contradiction
    cases ok
    exact leaves (keepsQuiet base rfl (revokeRowAges id now c.world)) (Knowledge.learnsNothing trivial)
  · intro c _ thread i error base facts thrown _
    exact leaves (keepsQuiet base rfl (agesStay rfl)) (Knowledge.learnsNothing trivial)

theorem safeReads {α : Type} {site : Site} (quiet : site.quiet = true) (f : Answer → World → Except Exception α)
    (known : Multiset Fact) : Safe reuse.contract anyEnd (Process.query site f) ((),known) :=
  safeQuiet quiet fun _ _ => Knowledge.learnsNothing trivial

theorem safeLogout (self : Config) (token : String) :
    Safe reuse.contract anyEnd (logout self token) 0 := by
  refine safeThen (safeReads rfl _ 0) ?_
  rintro ⟨stored,now⟩ ⟨_,known⟩
  have logs : ∀ known, Safe reuse.contract anyEnd logEvent ((),known) := fun known => safeReads rfl _ known
  dsimp only
  split
  · split
    · exact safeThen (safeRevokeRow _ now known) (fun _ held => logs held.2)
    · exact logs known
  · exact logs known

theorem safeRevokeSession (self : Config) (id userId : String) (current : Option String) :
    Safe reuse.contract anyEnd (revokeSession self id userId current) 0 := by
  refine safeThen (safeReads rfl _ 0) ?_
  rintro ⟨found,now⟩ ⟨_,known⟩
  dsimp only
  split
  · trivial
  · split
    · trivial
    · split
      · trivial
      · exact safeThen (safeRevokeRow id now known) (fun _ _ => trivial)

def promises (self : Config) : Request → Except Exception Reply → Unit × Multiset Fact → Prop
  | .refresh _ token, out, held => Caught (self.hashRefreshToken token) out held
  | _, _, _ => True

theorem safeHandler (self : Config) (request : Request) :
    Safe reuse.contract (promises self request) (handler self request) 0 := by
  cases request with
  | issueTokenPair service user =>
    cases service <;> exact safeThen (safeIssueWith self _ user) (fun _ _ => trivial)
  | refresh service token =>
    have ends : ∀ rules, Safe reuse.contract (Caught (self.hashRefreshToken token))
        (refreshWith self rules token >>= fun pair => pure (Reply.tokens pair)) 0 := by
      intro rules
      refine safeBind (safeMono ?_ (safeRefreshWith self rules token 0))
      intro out known caught
      cases out with
      | ok pair => exact caughtOther (by simp)
      | error error => exact fun same => caught (by rw [Except.error.inj same])
    cases service <;> exact ends _
  | logout token => exact safeThen (safeLogout self token) (fun _ _ => trivial)
  | revokeSession id userId current => exact safeThen (safeRevokeSession self id userId current) (fun _ _ => trivial)

end Knowledge

section Runs

variable (self : Config) (world : World) (moves : List AuthMove)

theorem reuseSecured (fresh : ∀ e ∈ ((service self).run (Pool.initial world) moves).history, FreshFamily e)
    (clean : ∀ e ∈ ((service self).run (Pool.initial world) moves).history, ReusesDead e) :
    Secured reuse.contract (promises self) ((service self).run (Pool.initial world) moves) := by
  have begin : Secured reuse.contract (promises self) (Pool.initial world : AuthPool) :=
    securedInitial ⟨⟨fun d inside => absurd inside (List.not_mem_nil),trivial⟩,by simp⟩
  have ticks : ∀ elapsed c g, reuse.contract.inv c g →
      reuse.contract.inv { c with world := (service self).environment elapsed c.world } g := by
    rintro elapsed c g ⟨lasting,facts⟩
    refine ⟨⟨lasting.dead,lasting.finished⟩,fun fact known => ?_⟩
    have true := facts fact known
    cases fact with
    | stored hash id family => exact true
    | detected family => exact true
  exact securedRun (safeHandler self) ticks begin moves (meetsEach fun e inside => ⟨fresh e inside,clean e inside⟩)

/-- Once a refresh has failed with a detected reuse, no token of its family is
exchanged any more, in every run in which rotations only ever meet used tokens of
dead families. -/
theorem reuseEndsFamily (more : List AuthMove)
    (fresh : ∀ e ∈ ((service self).run (Pool.initial world) (moves ++ more)).history, FreshFamily e)
    (clean : ∀ e ∈ ((service self).run (Pool.initial world) (moves ++ more)).history, ReusesDead e)
    {k : Nat} {kind : Service} {token : String}
    (detected : ((service self).run (Pool.initial world) moves).threads[k]? =
      some ⟨.refresh kind token,.raise reuseDetected⟩)
    {stored : RefreshToken}
    (row : storedToken ((service self).run (Pool.initial world) moves).world (self.hashRefreshToken token) = some stored)
    {later : List AuthEvent}
    (after : ((service self).run (Pool.initial world) (moves ++ more)).history =
      later ++ ((service self).run (Pool.initial world) moves).history) :
    ∀ e ∈ later, ¬ Exchanges stored.familyId e := by
  have suffix := (service self).runHistory ((service self).run (Pool.initial world) moves) more
  rw [← System.runAppend] at suffix
  have secured := reuseSecured self world moves (fun e inside => fresh e (suffix.subset inside))
    (fun e inside => clean e (suffix.subset inside))
  have ended : ((service self).run (Pool.initial world) moves).threads[k]? =
    some ⟨.refresh kind token,Process.ofExcept (.error reuseDetected)⟩ := detected
  obtain ⟨_,known,caught,facts⟩ := Knowledge.endedKnows secured ended
  obtain ⟨id,family,mine,found⟩ := caught rfl
  obtain ⟨row',same,_,rfl⟩ := facts _ mine
  cases Option.some.inj (same.symm.trans row)
  obtain ⟨d,there,detects⟩ := facts _ found
  have lasting : AllMeet (fun earlier e => ∀ family, Exchanges family e → ∀ d ∈ earlier, ¬ Detects family d)
      ((service self).run (Pool.initial world) (moves ++ more)).history :=
    (Knowledge.securedBase (reuseSecured self world (moves ++ more) fresh clean)).choose_spec.finished
  intro e inside exchanged
  obtain ⟨newer,older,rfl⟩ := List.append_of_mem inside
  rw [after,List.append_assoc] at lasting
  have tail := meetsSuffix ⟨newer,rfl⟩ lasting
  exact tail.1 _ exchanged d (List.mem_append_right _ there) detects

def plain : Config where
  signRefresh sub family second := s!"{sub}.{family}.{second}"
  signAccess user second := s!"{user.id}.{second}"
  sha256 token := s!"sha256:{token}"

def session (id token : String) (consumedAt : Option Nat) : RefreshToken :=
  { id := id
    userId := "ann"
    tokenHash := plain.sha256 token
    familyId := "f"
    expiresAt := 7 * day
    consumedAt := consumedAt
    lastUsedAt := some 0
    createdAt := 0 }

def rotatedOnce : World where
  users := ⟨[{ id := "ann" }],by decide⟩
  tokens := ⟨[session "s0" "ann.f.0" (some 1000),session "s1" "ann.f.1" none],by decide⟩
  clock := 2000

/-- The old token is presented again, then the current one. -/
theorem reuseAfterRotation :
    ((service plain).run (Pool.initial rotatedOnce)
      [.start (.refresh .auth "ann.f.0"),.answer 0 {},.answer 0 {}]).history.length = 2 ∧
    ∀ e ∈ ((service plain).run (Pool.initial rotatedOnce)
      ([.start (.refresh .auth "ann.f.0"),.answer 0 {},.answer 0 {}] ++
        [.start (.refresh .auth "ann.f.1"),.answer 1 {}])).history.take 1, ¬ Exchanges "f" e := by
  have sites : ((service plain).run (Pool.initial rotatedOnce)
      ([.start (.refresh .auth "ann.f.0"),.answer 0 {},.answer 0 {}] ++
        [.start (.refresh .auth "ann.f.1"),.answer 1 {}])).history.map Event.site =
      [.findToken,.revokeFamily "f",.findToken] := rfl
  have calm : ∀ e ∈ ((service plain).run (Pool.initial rotatedOnce)
      ([.start (.refresh .auth "ann.f.0"),.answer 0 {},.answer 0 {}] ++
        [.start (.refresh .auth "ann.f.1"),.answer 1 {}])).history,
      (∀ id, e.site ≠ .rotate id) ∧ ∀ family, e.site ≠ .createSession family := by
    intro e inside
    have site : e.site ∈ [Site.findToken,.revokeFamily "f",.findToken] := sites ▸ List.mem_map_of_mem inside
    simp only [List.mem_cons,List.not_mem_nil,or_false] at site
    rcases site with same | same | same <;> simp [same]
  have detected : ((service plain).run (Pool.initial rotatedOnce)
      [.start (.refresh .auth "ann.f.0"),.answer 0 {},.answer 0 {}]).threads[0]? =
      some ⟨.refresh .auth "ann.f.0",.raise reuseDetected⟩ := rfl
  have revoked : storedToken ((service plain).run (Pool.initial rotatedOnce)
      [.start (.refresh .auth "ann.f.0"),.answer 0 {},.answer 0 {}]).world (plain.hashRefreshToken "ann.f.0") =
      some { session "s0" "ann.f.0" (some 1000) with revokedAt := some 2000 } := rfl
  refine ⟨rfl,?_⟩
  exact reuseEndsFamily plain rotatedOnce [.start (.refresh .auth "ann.f.0"),.answer 0 {},.answer 0 {}]
    [.start (.refresh .auth "ann.f.1"),.answer 1 {}]
    (fun e inside family same => absurd same ((calm e inside).2 family))
    (fun e inside id row same => absurd same ((calm e inside).1 id))
    detected revoked (List.take_append_drop 1 _).symm

def firstToken : World where
  users := .single { id := "ann" }
  tokens := .single (session "s0" "ann.f.0" none)
  clock := 0

/-- Two callers read the same live token; the second to rotate reports the reuse,
its revocation is rolled back, and the first caller's new token is exchanged. -/
theorem reuseRolledBack :
    let race : List AuthMove :=
      [.start (.refresh .session "ann.f.0"),.start (.refresh .session "ann.f.0"),.answer 0 {},.answer 1 {},
        .environment 1000,.answer 0 {},.answer 1 {},.answer 0 { text := "s1" },.answer 1 { text := "s2" }]
    let again : List AuthMove :=
      [.start (.refresh .session "ann.f.1"),.answer 2 {},.environment 1000,.answer 2 {},.answer 2 { text := "s3" }]
    ((service plain).run (Pool.initial firstToken) race).threads[1]? =
      some ⟨.refresh .session "ann.f.0",.raise reuseDetected⟩ ∧
    (storedToken ((service plain).run (Pool.initial firstToken) race).world
      (plain.hashRefreshToken "ann.f.0")).map RefreshToken.familyId = some "f" ∧
    ∃ later, ((service plain).run (Pool.initial firstToken) (race ++ again)).history =
        later ++ ((service plain).run (Pool.initial firstToken) race).history ∧
      ∃ e ∈ later, Exchanges "f" e := by
  refine ⟨rfl,rfl,_,(List.take_append_drop 3 _).symm,_,List.Mem.head _,?_⟩
  refine ⟨"s1",_,rfl,rfl,rfl,?_⟩
  exact fun same => absurd (congrArg List.length same) (by decide)

end Runs

end HireSettle.Auth
