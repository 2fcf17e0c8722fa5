import HireSettle.Auth.SessionReuse
import HireSettle.Workflow.Traces

/-! One live token for each family. Every method keeps at most one token of a family
live: a family begins with one, under an id that was never drawn before, and a
rotation consumes the live token before it stores the next. A family whose last
live token has been revoked is never exchanged again. -/
namespace HireSettle.Auth
open Workflow

def SingleLive (w : World) : Prop :=
  ∀ a ∈ w.tokens.rows, ∀ b ∈ w.tokens.rows, a.familyId = b.familyId → a.live = true → b.live = true → a = b

def liveTokens (w : World) (family : String) : Nat := w.tokens.count fun row => row.familyId = family && row.live

/-- The ids that `randomBytes` draws are new: no stored token had them, and no earlier draw. -/
def DrawsNew (w : World) (earlier : List AuthEvent) (e : AuthEvent) : Prop :=
  e.site = .randomBytes → (∀ row ∈ w.tokens.rows, row.familyId ≠ e.answer.text) ∧
    ∀ d ∈ earlier, d.site = .randomBytes → d.answer.text ≠ e.answer.text

instance (w : World) (earlier : List AuthEvent) (e : AuthEvent) : Decidable (DrawsNew w earlier e) :=
  inferInstanceAs (Decidable (_ → _ ∧ _))

def Drawn (history : List AuthEvent) (family : String) : Prop :=
  ∃ d ∈ history, d.site = .randomBytes ∧ d.answer.text = family

/-- The call that revokes the token `id`. -/
def Revokes (id : String) (e : AuthEvent) : Prop :=
  e.site = .revokeSession id ∧ e.answer.fails = false ∧ ∃ row, e.before.tokens.get? id = some row

/-- No other token of the family is live when one of its tokens is revoked. -/
def RevokesLast (family : String) (e : AuthEvent) : Prop :=
  ∃ id row, e.site = .revokeSession id ∧ e.answer.fails = false ∧ e.before.tokens.get? id = some row ∧
    row.familyId = family ∧ ∀ other ∈ e.before.tokens.rows, other.familyId = family → other.live = true → other.id = id

section Rows

theorem liveAtMostOne {w : World} (single : SingleLive w) (family : String) : liveTokens w family ≤ 1 := by
  unfold liveTokens Table.count
  rw [List.countP_eq_length_filter]
  have nodup : (w.tokens.rows.filter fun row => row.familyId = family && row.live).Nodup :=
    (List.Nodup.of_map _ w.tokens.unique).filter _
  rcases rows : w.tokens.rows.filter fun row => row.familyId = family && row.live with _ | ⟨a,_ | ⟨b,rest⟩⟩
  · simp [rows]
  · simp [rows]
  · rw [rows] at nodup
    have mine : ∀ row ∈ [a,b], row ∈ w.tokens.rows ∧ row.familyId = family ∧ row.live = true := by
      intro row inside
      have there : row ∈ w.tokens.rows.filter fun row => row.familyId = family && row.live := by
        rw [rows]
        simp only [List.mem_cons,List.not_mem_nil,or_false] at inside
        rcases inside with rfl | rfl <;> simp
      simpa [and_assoc] using List.mem_filter.mp there
    obtain ⟨insideA,familyA,liveA⟩ := mine a (by simp)
    obtain ⟨insideB,familyB,liveB⟩ := mine b (by simp)
    have same := single a insideA b insideB (familyA.trans familyB.symm) liveA liveB
    simp [same] at nodup

theorem singleStays {w w' : World} (same : w'.tokens = w.tokens) (single : SingleLive w) : SingleLive w' := by
  rwa [SingleLive,same]

theorem singleUpdate {w : World} {p : RefreshToken → Bool} {f : RefreshToken → RefreshToken}
    {keeps : ∀ r, Keyed.key (f r) = Keyed.key r} (family : ∀ r, (f r).familyId = r.familyId)
    (retires : ∀ r, (f r).live = true → r.live = true) (single : SingleLive w) :
    SingleLive { w with tokens := w.tokens.updateMany p f keeps } := by
  intro a insideA b insideB same liveA liveB
  obtain ⟨r,there,rfl⟩ := (Table.memUpdateMany keeps).mp insideA
  obtain ⟨s,there',rfl⟩ := (Table.memUpdateMany keeps).mp insideB
  have before : ∀ r : RefreshToken, (if p r then f r else r).familyId = r.familyId ∧
      ((if p r then f r else r).live = true → r.live = true) := by
    intro r
    split
    · exact ⟨family r,retires r⟩
    · exact ⟨rfl,id⟩
  have equal := single r there s there' (by rw [← (before r).1,same,(before s).1]) ((before r).2 liveA) ((before s).2 liveB)
  rw [equal]

theorem singleCreate {w : World} {row : RefreshToken} {tokens : Table RefreshToken} (made : w.tokens.create row = some tokens)
    (none : ∀ r ∈ w.tokens.rows, r.familyId = row.familyId → r.live = false) (single : SingleLive w) :
    SingleLive { w with tokens := tokens } := by
  intro a insideA b insideB same liveA liveB
  rcases (Table.memCreate made).mp insideA with oldA | rfl
  · rcases (Table.memCreate made).mp insideB with oldB | rfl
    · exact single a oldA b oldB same liveA liveB
    · simp [none a oldA same] at liveA
  · rcases (Table.memCreate made).mp insideB with oldB | rfl
    · simp [none b oldB same.symm] at liveB
    · rfl

structure SameToken (a b : RefreshToken) : Prop where
  id : b.id = a.id
  userId : b.userId = a.userId
  tokenHash : b.tokenHash = a.tokenHash
  familyId : b.familyId = a.familyId

def KeepsTokens (w w' : World) : Prop :=
  ∀ id row, w.tokens.get? id = some row → ∃ row', w'.tokens.get? id = some row' ∧ SameToken row row'

theorem keepsStay {w w' : World} (same : w'.tokens = w.tokens) : KeepsTokens w w' :=
  fun id row found => ⟨row,by rwa [same],rfl,rfl,rfl,rfl⟩

theorem keepsFollow {a b c : World} (first : KeepsTokens a b) (later : KeepsTokens b c) : KeepsTokens a c := by
  intro id row found
  obtain ⟨row',found',same⟩ := first id row found
  obtain ⟨row'',found'',same'⟩ := later id row' found'
  exact ⟨row'',found'',same'.id.trans same.id,same'.userId.trans same.userId,same'.tokenHash.trans same.tokenHash,
    same'.familyId.trans same.familyId⟩

theorem keepsUpdate {w : World} {p : RefreshToken → Bool} {f : RefreshToken → RefreshToken}
    {keeps : ∀ r, Keyed.key (f r) = Keyed.key r} (same : ∀ r, SameToken r (f r)) :
    KeepsTokens w { w with tokens := w.tokens.updateMany p f keeps } := by
  intro id row found
  refine ⟨if p row then f row else row,by simp [found],?_⟩
  split
  · exact same row
  · exact ⟨rfl,rfl,rfl,rfl⟩

theorem keepsCreate {w : World} {row : RefreshToken} {tokens : Table RefreshToken} (made : w.tokens.create row = some tokens) :
    KeepsTokens w { w with tokens := tokens } := by
  intro id old found
  obtain ⟨free,_,get⟩ := Table.createGet made
  refine ⟨old,?_,rfl,rfl,rfl,rfl⟩
  rw [get,if_neg]
  · exact found
  · intro same
    cases found.symm.trans (same ▸ free)

def consumed (rules : Rules) (now : Nat) (row : RefreshToken) : RefreshToken :=
  { row with consumedAt := some now, lastUsedAt := if rules.stampsUse then some now else row.lastUsedAt }

/-- A rotation that commits consumes the live token it was given and stores one of the same family. -/
theorem rotationRows {self : Config} {rules : Rules} {stored : RefreshToken} {next id : String}
    {nextExpiresAt now clock : Nat} {w w' : World}
    (rotated : rotation self rules stored next nextExpiresAt now id w = .ok (clock,w')) :
    ∃ row created, w.tokens.get? stored.id = some row ∧ row.live = true ∧ created.live = true ∧
      created.familyId = stored.familyId ∧ created.userId = stored.userId ∧ created.tokenHash = self.hashRefreshToken next ∧
      createToken created { w with tokens := w.tokens.update stored.id (consumed rules now) } = .ok ((),w') := by
  obtain ⟨count,w₁,consume,rest⟩ := bodyCommits.mp rotated
  cases consume
  split at rest
  · obtain ⟨_,w₂,_,thrown⟩ := bodyCommits.mp rest
    obtain ⟨_,w₃,impossible,_⟩ := bodyCommits.mp thrown
    cases impossible
  · rename_i single
    have one : w.tokens.count (fun row => row.id = stored.id && row.live) = 1 := not_not.mp single
    obtain ⟨_,w₂,same,rest⟩ := bodyCommits.mp rest
    cases same
    obtain ⟨_,w₃,created,last⟩ := bodyCommits.mp rest
    cases last
    obtain ⟨k,row,found,matched⟩ := Table.countPos.mp (one ▸ Nat.one_pos)
    have byKey : ∀ r : RefreshToken, (r.id = stored.id && r.live) = true → Keyed.key r = stored.id := by
      intro r both
      simp only [Bool.and_eq_true,decide_eq_true_eq] at both
      exact both.1
    have key : k = stored.id := (Table.getKey found).symm.trans (byKey row matched)
    subst key
    have stays : ∀ r : RefreshToken, Keyed.key (consumed rules now r) = Keyed.key r := fun _ => rfl
    have update : w.tokens.updateMany _ (consumed rules now) stays = w.tokens.update stored.id (consumed rules now) stays :=
      Table.updateManyKey byKey found matched
    rw [← update]
    simp only [Bool.and_eq_true,decide_eq_true_eq] at matched
    refine ⟨row,_,found,matched.2,?_,?_,?_,?_,created⟩ <;> rfl

end Rows

section Invariant

variable {w₀ : World}

structure Issued (w₀ : World) (c : AuthSnapshot) (drawn : Multiset String) : Prop where
  single : SingleLive c.world
  distinct : drawn.Nodup
  unused : ∀ family ∈ drawn, ∀ row ∈ c.world.tokens.rows, row.familyId ≠ family
  origin : ∀ family, (family ∈ drawn ∨ ∃ row ∈ c.world.tokens.rows, row.familyId = family) →
    (∃ row ∈ w₀.tokens.rows, row.familyId = family) ∨ Drawn c.history family
  ended : ∀ d ∈ c.history, ∀ family, RevokesLast family d → Dead c.world family
  finished : AllMeet (fun earlier e => ∀ family, Exchanges family e → ∀ d ∈ earlier, ¬ RevokesLast family d) c.history

/-- A thread holds the family ids it has drawn and not yet used, and knows the families of tokens. -/
def families (w₀ : World) : Knowledge Site Answer World (Multiset String) (String × String) where
  base := Issued w₀
  holds c fact := ∃ row, c.world.tokens.get? fact.1 = some row ∧ row.familyId = fact.2
  admits := DrawsNew w₀

variable {c : AuthSnapshot} {drawn drawn' : Multiset String} {thread : Nat} {site : Site} {i : Answer} {w' : World}

theorem drawnLater {family : String} (drawn : Drawn c.history family) :
    Drawn (c.record thread site i w').history family := by
  obtain ⟨d,inside,there⟩ := drawn
  exact ⟨d,List.mem_cons_of_mem _ inside,there⟩

/-- A call that moves the table as the methods do keeps everything but the accounting of the draws. -/
theorem issuedNext (issued : Issued w₀ c drawn) (single : SingleLive w') (distinct : drawn'.Nodup)
    (unused : ∀ family ∈ drawn', ∀ row ∈ w'.tokens.rows, row.familyId ≠ family)
    (origin : ∀ family, (family ∈ drawn' ∨ ∃ row ∈ w'.tokens.rows, row.familyId = family) →
      (family ∈ drawn ∨ ∃ row ∈ c.world.tokens.rows, row.familyId = family) ∨ Drawn (c.record thread site i w').history family)
    (dead : ∀ family, Dead c.world family → Dead w' family)
    (revokes : ∀ family, RevokesLast family (c.event thread site i w') → Dead w' family)
    (exchanges : ∀ family, Exchanges family (c.event thread site i w') → ¬ Dead c.world family) :
    Issued w₀ (c.record thread site i w') drawn' where
  single := single
  distinct := distinct
  unused := unused
  origin := by
    intro family used
    rcases origin family used with before | new
    · exact (issued.origin family before).imp_right drawnLater
    · exact Or.inr new
  ended := by
    intro d inside family last
    rcases List.mem_cons.mp inside with rfl | earlier
    · exact revokes family last
    · exact dead family (issued.ended d earlier family last)
  finished := ⟨fun family exchanged d earlier last => exchanges family exchanged (issued.ended d earlier family last),
    issued.finished⟩

theorem issuedSame (issued : Issued w₀ c drawn) (single : SingleLive w')
    (sameFamilies : ∀ row ∈ w'.tokens.rows, ∃ old ∈ c.world.tokens.rows, old.familyId = row.familyId)
    (dead : ∀ family, Dead c.world family → Dead w' family)
    (revokes : ∀ family, RevokesLast family (c.event thread site i w') → Dead w' family)
    (exchanges : ∀ family, Exchanges family (c.event thread site i w') → ¬ Dead c.world family) :
    Issued w₀ (c.record thread site i w') drawn := by
  refine issuedNext issued single issued.distinct ?_ ?_ dead revokes exchanges
  · intro family held row inside
    obtain ⟨old,there,same⟩ := sameFamilies row inside
    exact same ▸ issued.unused family held old there
  · rintro family (held | ⟨row,inside,mine⟩)
    · exact Or.inl (Or.inl held)
    · obtain ⟨old,there,same⟩ := sameFamilies row inside
      exact Or.inl (Or.inr ⟨old,there,same.trans mine⟩)

theorem issuedStays (issued : Issued w₀ c drawn) (same : w'.tokens = c.world.tokens)
    (fails : ∀ id, site = .revokeSession id → i.fails = true ∨ c.world.tokens.get? id = none) :
    Issued w₀ (c.record thread site i w') drawn := by
  refine issuedSame issued (singleStays same issued.single) ?_ ?_ ?_ ?_
  · exact fun row inside => ⟨row,by rwa [← same],rfl⟩
  · exact fun family dead => by rwa [Dead,same]
  · rintro family ⟨id,row,here,answered,found,_⟩
    rcases fails id here with failed | missing
    · cases failed.symm.trans answered
    · cases found.symm.trans missing
  · rintro family ⟨id,row,_,_,_,changed⟩
    exact absurd (congrArg Table.rows same) changed

theorem issuedUpdate {p : RefreshToken → Bool} {f : RefreshToken → RefreshToken} {keeps : ∀ r, Keyed.key (f r) = Keyed.key r}
    (issued : Issued w₀ c drawn) (same : ∀ r, SameToken r (f r)) (retires : ∀ r, (f r).live = true → r.live = true)
    (revokes : ∀ family, RevokesLast family (c.event thread site i { c.world with tokens := c.world.tokens.updateMany p f keeps }) →
      Dead { c.world with tokens := c.world.tokens.updateMany p f keeps } family)
    (rotates : ∀ id, site ≠ .rotate id) :
    Issued w₀ (c.record thread site i { c.world with tokens := c.world.tokens.updateMany p f keeps }) drawn := by
  refine issuedSame issued (singleUpdate (fun r => (same r).familyId) retires issued.single) ?_ ?_ revokes ?_
  · intro row inside
    obtain ⟨old,there,rfl⟩ := (Table.memUpdateMany keeps).mp inside
    refine ⟨old,there,?_⟩
    split
    · exact (same old).familyId.symm
    · rfl
  · exact (agesUpdate (fun r => ⟨(same r).tokenHash,(same r).familyId⟩) retires).dead
  · rintro family ⟨id,_,here,_⟩
    exact absurd here (rotates id)

theorem issuedDraws {family : String} (issued : Issued w₀ c drawn) (new : DrawsNew w₀ c.history (c.event thread .randomBytes i c.world))
    (here : family = i.text) : Issued w₀ (c.record thread .randomBytes i c.world) ({family} + drawn) := by
  subst here
  obtain ⟨unstored,undrawn⟩ := new rfl
  have fresh : ¬ (i.text ∈ drawn ∨ ∃ row ∈ c.world.tokens.rows, row.familyId = i.text) := by
    intro used
    rcases issued.origin i.text used with ⟨row,inside,same⟩ | ⟨d,inside,random,same⟩
    · exact unstored row inside same
    · exact undrawn d inside random same
  rw [not_or] at fresh
  refine issuedNext issued issued.single ?_ ?_ ?_ (fun family dead => dead) ?_ ?_
  · rw [Multiset.singleton_add]
    exact Multiset.nodup_cons.mpr ⟨fresh.1,issued.distinct⟩
  · intro family held row inside
    rcases Multiset.mem_add.mp held with mine | others
    · rw [Multiset.mem_singleton.mp mine]
      exact fun same => fresh.2 ⟨row,inside,same⟩
    · exact issued.unused family others row inside
  · rintro family (held | stored)
    · rcases Multiset.mem_add.mp held with mine | others
      · exact Or.inr ⟨_,List.mem_cons_self,rfl,(Multiset.mem_singleton.mp mine).symm⟩
      · exact Or.inl (Or.inl others)
    · exact Or.inl (Or.inr stored)
  · rintro family ⟨id,_,impossible,_⟩
    cases impossible
  · rintro family ⟨id,_,impossible,_⟩
    cases impossible

theorem issuedCreates {row : RefreshToken} {tokens : Table RefreshToken} {family : String} (mine : row.familyId = family)
    (issued : Issued w₀ c ({family} + drawn)) (made : c.world.tokens.create row = some tokens) :
    Issued w₀ (c.record thread (.createSession family) i { c.world with tokens := tokens }) drawn := by
  subst mine
  have held : row.familyId ∈ ({row.familyId} : Multiset String) + drawn := Multiset.mem_add.mpr (Or.inl (Multiset.mem_singleton_self _))
  have unused := issued.unused _ held
  have distinct := issued.distinct
  rw [Multiset.singleton_add,Multiset.nodup_cons] at distinct
  refine issuedNext issued ?_ distinct.2 ?_ ?_ ?_ ?_ ?_
  · exact singleCreate made (fun r inside same => absurd same (unused r inside)) issued.single
  · intro family others r inside
    rcases (Table.memCreate made).mp inside with old | rfl
    · exact issued.unused family (Multiset.mem_add.mpr (Or.inr others)) r old
    · exact fun same => distinct.1 (same ▸ others)
  · rintro family (others | ⟨r,inside,same⟩)
    · exact Or.inl (Or.inl (Multiset.mem_add.mpr (Or.inr others)))
    · rcases (Table.memCreate made).mp inside with old | rfl
      · exact Or.inl (Or.inr ⟨r,old,same⟩)
      · exact Or.inl (Or.inl (same ▸ held))
  · intro family dead
    refine createDead made ?_ dead
    obtain ⟨⟨old,inside,same⟩,_⟩ := dead
    exact fun equal => unused old inside (same.trans equal.symm)
  · rintro family ⟨id,_,impossible,_⟩
    cases impossible
  · rintro family ⟨id,_,impossible,_⟩
    cases impossible

/-- A rotation stores the successor in a family whose live token it has just consumed. -/
theorem issuedRotates {rules : Rules} {row created : RefreshToken} {tokens : Table RefreshToken} {now : Nat}
    (issued : Issued w₀ c drawn) (found : c.world.tokens.get? row.id = some row) (live : row.live = true)
    (same : created.familyId = row.familyId)
    (made : ({ c.world with tokens := c.world.tokens.update row.id (consumed rules now) } : World).tokens.create created =
      some tokens) : Issued w₀ (c.record thread (.rotate row.id) i { c.world with tokens := tokens }) drawn := by
  have inside := Table.getMem found
  have retires : ∀ r : RefreshToken, (consumed rules now r).live = true → r.live = true := by
    intro r alive
    simp [consumed,RefreshToken.live] at alive
  have single : SingleLive { c.world with tokens := c.world.tokens.update row.id (consumed rules now) } :=
    singleUpdate (fun _ => rfl) retires issued.single
  have ages : Ages c.world { c.world with tokens := c.world.tokens.update row.id (consumed rules now) } :=
    agesUpdate (fun _ => ⟨rfl,rfl⟩) retires
  have gone : ∀ r ∈ (c.world.tokens.update row.id (consumed rules now)).rows, r.familyId = created.familyId → r.live = false := by
    intro r there family
    obtain ⟨old,before,rfl⟩ := List.mem_map.mp there
    split at family
    · simp [*,consumed,RefreshToken.live]
    · rename_i other
      rw [if_neg other]
      by_contra alive
      have equal := issued.single old before row inside (family.trans same) (by simpa using alive) live
      exact other (by rw [equal]; exact decide_eq_true rfl)
  let w₁ : World := { c.world with tokens := c.world.tokens.update row.id (consumed rules now) }
  refine issuedSame issued (singleCreate (w := w₁) made gone single) ?_ ?_ ?_ ?_
  · intro r there
    rcases (Table.memCreate made).mp there with old | rfl
    · obtain ⟨before,stored,rfl⟩ := List.mem_map.mp old
      refine ⟨before,stored,?_⟩
      split <;> rfl
    · exact ⟨row,inside,same.symm⟩
  · intro family dead
    refine createDead (w := w₁) made ?_ (ages.dead family dead)
    intro equal
    cases (dead.2 row inside (same.symm.trans equal)).symm.trans live
  · rintro family ⟨id,_,impossible,_⟩
    cases impossible
  · rintro family ⟨id,other,here,found',mine,_⟩ dead
    cases (show Site.rotate row.id = .rotate id from here)
    cases Option.some.inj (found.symm.trans found')
    cases (dead.2 row inside mine).symm.trans live

end Invariant

section Methods

variable {w₀ : World}

theorem remembers {c : AuthSnapshot} {thread : Nat} {site : Site} {i : Answer} {w' : World} (keeps : KeepsTokens c.world w') :
    (families w₀).Remembers c (c.record thread site i w') := by
  rintro ⟨id,family⟩ ⟨row,found,mine⟩
  obtain ⟨row',found',same⟩ := keeps id row found
  exact ⟨row',found',same.familyId.trans mine⟩

theorem harmlessReads {α : Type} {site : Site} (f : Answer → World → Except Exception α)
    (reads : ∀ id, site ≠ .revokeSession id) : Harmless (families w₀).contract (Process.query site f) := by
  rintro ⟨mine,known⟩
  refine Knowledge.safeQuery fun c frame thread i issued _ _ => ?_
  exact ⟨mine,issuedStays issued rfl fun id same => absurd same (reads id),remembers (keepsStay rfl),
    Knowledge.learnsNothing trivial⟩

theorem safeFind {hash : String} {mine : Multiset String} {known : Multiset (String × String)}
    {done : Except Exception (Option (RefreshToken × User) × Nat) → Multiset String × Multiset (String × String) → Prop}
    (missing : ∀ now, done (.ok (none,now)) (mine,known)) (failed : done (.error .database) (mine,known))
    (found : ∀ stored user now, done (.ok (some (stored,user),now)) (mine,(stored.id,stored.familyId) ::ₘ known)) :
    Safe (families w₀).contract done (findStored hash) (mine,known) := by
  refine Knowledge.safeQuery fun c frame thread i issued _ _ => ?_
  refine ⟨mine,issuedStays issued rfl (by simp),remembers (keepsStay rfl),?_⟩
  split
  · exact Knowledge.learnsNothing failed
  · split
    · exact Knowledge.learnsNothing (missing _)
    · rename_i row there
      split
      · exact Knowledge.learnsNothing failed
      · rename_i user _
        exact Knowledge.learnsFact (row.id,row.familyId) ⟨row,(Table.findFirstGet there).1,rfl⟩ (found row user _)

theorem harmlessRevokeFamily (family : String) (now : Nat) : Harmless (families w₀).contract (revokeFamily family now) := by
  rintro ⟨mine,known⟩
  refine Knowledge.safeTransact ?_ ?_
  · intro c frame thread i value after issued _ ok _
    split at ok
    · contradiction
    · cases ok
      refine ⟨mine,issuedUpdate issued (fun _ => ⟨rfl,rfl,rfl,rfl⟩) ?_ ?_ (by simp),remembers ?_,Knowledge.learnsNothing trivial⟩
      · exact fun r alive => by simp [RefreshToken.live] at alive
      · rintro other ⟨id,_,impossible,_⟩
        cases impossible
      · exact keepsUpdate fun _ => ⟨rfl,rfl,rfl,rfl⟩
  · intro c frame thread i error issued _ _ _
    exact ⟨mine,issuedStays issued rfl (by simp),remembers (keepsStay rfl),Knowledge.learnsNothing trivial⟩

theorem harmlessRotate {self : Config} {rules : Rules} {stored : RefreshToken} {next : String} {nextExpiresAt now : Nat} :
    (families w₀).Given (stored.id,stored.familyId) (rotate self rules stored next nextExpiresAt now) := by
  intro mine known here
  refine Knowledge.safeTransact ?_ ?_
  · intro c frame thread i value after issued facts ok _
    split at ok
    · contradiction
    · obtain ⟨row,created,found,live,_,family,_,_,stores⟩ := rotationRows ok
      obtain ⟨_,tokens,made,rfl⟩ := createTokenCases stores
      obtain ⟨row',found',same⟩ := facts _ here
      cases Option.some.inj (found.symm.trans found')
      have key : row.id = stored.id := Table.getKey found
      rw [← key] at made found ⊢
      refine ⟨mine,issuedRotates issued found live (family.trans same.symm) made,remembers ?_,Knowledge.learnsNothing trivial⟩
      have retired : KeepsTokens c.world { c.world with tokens := c.world.tokens.update row.id (consumed rules now) } :=
        keepsUpdate fun _ => ⟨rfl,rfl,rfl,rfl⟩
      exact keepsFollow retired (keepsCreate made)
  · intro c frame thread i error issued _ _ _
    exact ⟨mine,issuedStays issued rfl (by simp),remembers (keepsStay rfl),Knowledge.learnsNothing trivial⟩

theorem harmlessRefreshWith (self : Config) (rules : Rules) (token : String) :
    Harmless (families w₀).contract (refreshWith self rules token) := by
  rintro ⟨mine,known⟩
  refine safeBind (safeFind (fun now => trivial) trivial fun stored user now => ?_)
  dsimp only
  split
  · exact safeThen (harmlessRevokeFamily _ _ _) fun _ _ => trivial
  · split
    · trivial
    · split
      · trivial
      · have rest : (families w₀).Given (stored.id,stored.familyId) (do
            let signed ← signRefreshToken self user stored.familyId
            let rotatedAt ← rotate self rules stored signed.1 (self.refreshExpiryDate signed.2) now
            return (⟨self.signAccessToken user rotatedAt,signed.1,user⟩ : TokenPair)) := by
          refine Knowledge.givenBind (Knowledge.givenHarmless (harmlessReads _ (by simp))) fun signed => ?_
          exact Knowledge.givenBind harmlessRotate fun rotatedAt _ _ _ => trivial
        exact rest mine _ (Multiset.mem_cons_self _ _)

theorem harmlessIssueWith (self : Config) (stampsUse : Bool) (user : User) :
    Harmless (families w₀).contract (issueWith self stampsUse user) := by
  rintro ⟨mine,known⟩
  refine safeBind (Knowledge.safeQuery fun c frame thread i issued _ new => ?_)
  refine ⟨{i.text} + mine,?_,remembers (keepsStay rfl),Knowledge.learnsNothing ?_⟩
  · rw [add_assoc]
    exact issuedDraws issued new rfl
  · have drawn : ({i.text} + mine,known) = ({i.text},known) + (mine,0) := by rw [Prod.mk_add_mk,add_zero]
    dsimp only
    rw [drawn]
    refine safeAnyEnd (safeFrame (mine,0) (?_ : Safe _ anyEnd _ _))
    refine safeBind (Knowledge.safeQuery fun c frame thread j issued _ _ => ?_)
    refine ⟨{i.text},issuedStays issued rfl (by simp),remembers (keepsStay rfl),Knowledge.learnsNothing ?_⟩
    split
    · refine safeThen (Knowledge.safeTransact ?_ ?_) fun _ _ => trivial
      · intro c frame thread j value after issued _ ok _
        split at ok
        · contradiction
        · obtain ⟨_,w₁,stores,last⟩ := bodyCommits.mp ok
          cases last
          obtain ⟨_,tokens,made,rfl⟩ := createTokenCases stores
          refine ⟨0,?_,remembers (keepsCreate made),Knowledge.learnsNothing trivial⟩
          rw [zero_add]
          exact issuedCreates rfl issued made
      · intro c frame thread j error issued _ _ _
        exact ⟨{i.text},issuedStays issued rfl (by simp),remembers (keepsStay rfl),Knowledge.learnsNothing trivial⟩
    · trivial

theorem harmlessRevokeRow (id : String) (now : Nat) : Harmless (families w₀).contract (revokeRow id now) := by
  rintro ⟨mine,known⟩
  refine Knowledge.safeTransact ?_ ?_
  · intro c frame thread i value after issued _ ok _
    split at ok
    · contradiction
    · split at ok
      · contradiction
      · rename_i row found
        cases ok
        refine ⟨mine,issuedUpdate issued (fun _ => ⟨rfl,rfl,rfl,rfl⟩) ?_ ?_ (by simp),remembers ?_,Knowledge.learnsNothing trivial⟩
        · exact fun r alive => by simp [RefreshToken.live] at alive
        · rintro family ⟨id',row',here,_,found',same,last⟩
          cases (show Site.revokeSession id = .revokeSession id' from here)
          refine ⟨⟨_,List.mem_map_of_mem (Table.getMem found'),?_⟩,?_⟩
          · split <;> exact same
          · intro r inside mine'
            obtain ⟨old,there,rfl⟩ := List.mem_map.mp inside
            split at mine'
            · simp [*,RefreshToken.live]
            · rename_i other
              rw [if_neg other]
              by_contra alive
              exact other (decide_eq_true (last old there mine' (by simpa using alive)))
        · exact keepsUpdate fun _ => ⟨rfl,rfl,rfl,rfl⟩
  · intro c frame thread i error issued _ thrown _
    refine ⟨mine,issuedStays issued rfl ?_,remembers (keepsStay rfl),Knowledge.learnsNothing trivial⟩
    intro id' same
    cases same
    split at thrown
    · rename_i fails
      exact Or.inl fails
    · split at thrown
      · rename_i missing
        exact Or.inr missing
      · cases thrown

theorem harmlessLogout (self : Config) (token : String) : Harmless (families w₀).contract (logout self token) := by
  have logs : Harmless (families w₀).contract logEvent := harmlessReads _ (by simp)
  refine harmlessBind (harmlessReads _ (by simp)) fun found => ?_
  obtain ⟨stored,now⟩ := found
  dsimp only
  split
  · split
    · exact harmlessBind (harmlessRevokeRow _ _) fun _ => logs
    · exact logs
  · exact logs

theorem harmlessRevokeSession (self : Config) (id userId : String) (current : Option String) :
    Harmless (families w₀).contract (revokeSession self id userId current) := by
  refine harmlessBind (harmlessReads _ (by simp)) fun found => ?_
  obtain ⟨session,now⟩ := found
  dsimp only
  split
  · exact fun _ => trivial
  · split
    · exact fun _ => trivial
    · split
      · exact fun _ => trivial
      · exact harmlessBind (harmlessRevokeRow _ _) fun _ _ => trivial

theorem harmlessHandler (self : Config) (request : Request) : Harmless (families w₀).contract (handler self request) := by
  cases request with
  | issueTokenPair service user => cases service <;> exact harmlessBind (harmlessIssueWith self _ user) fun _ _ => trivial
  | refresh service token => cases service <;> exact harmlessBind (harmlessRefreshWith self _ token) fun _ _ => trivial
  | logout token => exact harmlessBind (harmlessLogout self token) fun _ _ => trivial
  | revokeSession id userId current => exact harmlessBind (harmlessRevokeSession self id userId current) fun _ _ => trivial

end Methods

section Traces

variable (self : Config)

/-- A live token is consumed and a live one of its family and user stored; no other row is touched. -/
def Rotation (token next : String) (e : AuthEvent) : Prop :=
  ∃ rules now row created, e.before.tokens.get? row.id = some row ∧ row.tokenHash = self.hashRefreshToken token ∧
    row.live = true ∧ created.live = true ∧ created.familyId = row.familyId ∧ created.userId = row.userId ∧
    created.tokenHash = self.hashRefreshToken next ∧
    e.after.tokens.rows = (e.before.tokens.update row.id (consumed rules now)).rows ++ [created]

def changesTokens (e : AuthEvent) : Bool := e.after.tokens.rows ≠ e.before.tokens.rows

theorem unchanged {thread : Nat} {site : Site} {i : Answer} {w : World} : changesTokens ⟨thread,site,i,w,w⟩ = false := by
  simp [changesTokens]

theorem stepsReads {α : Type} {site : Site} (f : Answer → World → Except Exception α) :
    Steps anySite KeepsTokens (Process.query site f) := stepsQuery rfl (fun _ => keepsStay rfl) f

theorem keepsRevokeFamily {family : String} {now : Nat} {w w' : World} (revoked : revokeFamilyRows family now w = .ok ((),w')) :
    KeepsTokens w w' := by
  cases revoked
  exact keepsUpdate fun _ => ⟨rfl,rfl,rfl,rfl⟩

theorem keepsRotation {rules : Rules} {stored : RefreshToken} {next id : String} {nextExpiresAt now clock : Nat} {w w' : World}
    (rotated : rotation self rules stored next nextExpiresAt now id w = .ok (clock,w')) : KeepsTokens w w' := by
  obtain ⟨row,created,_,_,_,_,_,_,stores⟩ := rotationRows rotated
  obtain ⟨_,tokens,made,rfl⟩ := createTokenCases stores
  have retired : KeepsTokens w { w with tokens := w.tokens.update stored.id (consumed rules now) } :=
    keepsUpdate fun _ => ⟨rfl,rfl,rfl,rfl⟩
  exact keepsFollow retired (keepsCreate made)

theorem stepsRefreshWith (rules : Rules) (token : String) : Steps anySite KeepsTokens (refreshWith self rules token) := by
  refine stepsBind (stepsReads _) fun found => ?_
  obtain ⟨found,now⟩ := found
  dsimp only
  split
  · trivial
  · split
    · refine stepsBind (stepsTransact rfl (fun _ => keepsStay rfl) ?_) fun _ => trivial
      intro i w value after ok
      split at ok
      · contradiction
      · exact keepsRevokeFamily ok
    · split
      · trivial
      · split
        · trivial
        · refine stepsBind (stepsReads _) fun signed => ?_
          refine stepsBind (stepsTransact rfl (fun _ => keepsStay rfl) ?_) fun _ => trivial
          intro i w value after ok
          split at ok
          · contradiction
          · exact keepsRotation self ok

theorem stepsIssueWith (stampsUse : Bool) (user : User) : Steps anySite KeepsTokens (issueWith self stampsUse user) := by
  refine stepsBind (stepsReads _) fun family => ?_
  refine stepsBind (stepsReads _) fun signed => ?_
  refine stepsBind (stepsTransact rfl (fun _ => keepsStay rfl) ?_) fun _ => trivial
  intro i w value after ok
  split at ok
  · contradiction
  · obtain ⟨_,w₁,stores,last⟩ := bodyCommits.mp ok
    cases last
    obtain ⟨_,tokens,made,rfl⟩ := createTokenCases stores
    exact keepsCreate made

theorem stepsRevokeRow (id : String) (now : Nat) : Steps anySite KeepsTokens (revokeRow id now) := by
  refine stepsTransact rfl (fun _ => keepsStay rfl) ?_
  intro i w value after ok
  split at ok
  · contradiction
  · split at ok
    · contradiction
    · cases ok
      exact keepsUpdate fun _ => ⟨rfl,rfl,rfl,rfl⟩

theorem stepsHandler (request : Request) : Steps anySite KeepsTokens (handler self request) := by
  cases request with
  | issueTokenPair service user => cases service <;> exact stepsBind (stepsIssueWith self _ user) fun _ => trivial
  | refresh service token => cases service <;> exact stepsBind (stepsRefreshWith self _ token) fun _ => trivial
  | logout token =>
    refine stepsBind (stepsBind (stepsReads _) fun found => ?_) fun _ => trivial
    obtain ⟨stored,now⟩ := found
    dsimp only
    split
    · split
      · exact stepsBind (stepsRevokeRow _ _) fun _ => stepsReads _
      · exact stepsReads _
    · exact stepsReads _
  | revokeSession id userId current =>
    refine stepsBind (stepsBind (stepsReads _) fun found => ?_) fun _ => trivial
    obtain ⟨session,now⟩ := found
    dsimp only
    split
    · trivial
    · split
      · trivial
      · split
        · trivial
        · exact stepsBind (stepsRevokeRow _ _) fun _ => trivial

/-- The calls of one thread when it has returned. -/
def returns : Request → List AuthEvent → Except Exception Reply → Prop
  | .refresh _ token, own, .ok (.tokens pair) => ∃ e, own.filter changesTokens = [e] ∧ Rotation self token pair.refreshToken e
  | .revokeSession id _ _, own, .ok _ => ∃ e ∈ own, Revokes id e
  | _, _, _ => True

def Rotates (token : String) (own : List AuthEvent) : Except Exception TokenPair → Prop
  | .ok pair => ∃ e, own.filter changesTokens = [e] ∧ Rotation self token pair.refreshToken e
  | .error _ => True

theorem tracedRotate {rules : Rules} {token : String} {stored : RefreshToken} {user : User} {now : Nat} {find : AuthEvent}
    (found : storedToken find.after (self.hashRefreshToken token) = some stored) (reads : changesTokens find = false) :
    Traced KeepsTokens (Rotates self token) (do
      let (next,signedAt) ← signRefreshToken self user stored.familyId
      let rotatedAt ← rotate self rules stored next (self.refreshExpiryDate signedAt) now
      return (⟨self.signAccessToken user rotatedAt,next,user⟩ : TokenPair)) [find] := by
  refine tracedBind (tracedQuery fun thread i w _ => ?_)
  split
  · rename_i signed ok
    refine tracedBind (tracedTransact ?_ fun _ _ _ _ _ _ => trivial)
    intro thread' i' w' value after relies ok
    split at ok
    · contradiction
    · obtain ⟨row,created,there,live,live',family,userId,hash,stores⟩ := rotationRows ok
      obtain ⟨_,tokens,made,rfl⟩ := createTokenCases stores
      obtain ⟨stored',inside⟩ := Table.findFirstGet found
      obtain ⟨row',there',same⟩ := relies find (by simp) _ _ stored'
      cases Option.some.inj (there.symm.trans there')
      have rows := (Table.createGet made).2.1
      refine ⟨⟨thread',.rotate stored.id,i',w',{ w' with tokens := tokens }⟩,?_,rules,now,row,created,?_,?_,live,live',
        family.trans same.familyId.symm,userId.trans same.userId.symm,hash,?_⟩
      · have changes : changesTokens ⟨thread',.rotate stored.id,i',w',{ w' with tokens := tokens }⟩ = true := by
          simp only [changesTokens,ne_eq,decide_eq_true_eq]
          intro equal
          have length := congrArg List.length (rows.symm.trans equal)
          simp [Table.update,Table.updateMany] at length
        simp only [List.filter_cons,changes,unchanged,reads,if_true,List.filter_nil]
        rfl
      · rwa [same.id]
      · rw [same.tokenHash]
        simpa using inside
      · rw [same.id]
        exact rows
  · trivial

theorem tracedRefreshWith (rules : Rules) (token : String) :
    Traced KeepsTokens (Rotates self token) (refreshWith self rules token) [] := by
  refine tracedBind (tracedQuery fun thread i w _ => ?_)
  split
  · rename_i found ok
    split at ok
    · contradiction
    · split at ok
      · cases ok
        trivial
      · rename_i stored there
        split at ok
        · contradiction
        · rename_i user _
          cases ok
          dsimp only
          split
          · exact tracedBind (tracedMono (fun own out _ => by cases out <;> trivial) (tracedAny _))
          · split
            · trivial
            · split
              · trivial
              · exact tracedRotate self there unchanged
  · trivial

theorem tracedRevokeSession (id userId : String) (current : Option String) :
    Traced KeepsTokens (fun own out => ∀ value, out = .ok value → ∃ e ∈ own, Revokes id e) (revokeSession self id userId current) [] := by
  refine tracedBind (tracedQuery fun thread i w _ => ?_)
  split
  · rename_i found _
    obtain ⟨session,now⟩ := found
    dsimp only
    split
    · exact fun _ => nofun
    · split
      · exact fun _ => nofun
      · split
        · exact fun _ => nofun
        · refine tracedBind (tracedTransact ?_ fun _ _ _ _ _ _ _ => nofun)
          intro thread' i' w' value after _ ok
          split at ok
          · contradiction
          · rename_i answered
            split at ok
            · contradiction
            · rename_i row there
              exact fun _ _ => ⟨_,List.mem_cons_self,rfl,by simpa using answered,row,there⟩
  · exact fun _ => nofun

theorem tracedHandler (request : Request) : Traced KeepsTokens (returns self request) (handler self request) [] := by
  cases request with
  | issueTokenPair service user => exact tracedMono (fun own out _ => by cases out <;> trivial) (tracedAny _)
  | refresh service token =>
    have ends : ∀ rules, Traced KeepsTokens (returns self (.refresh service token))
        (refreshWith self rules token >>= fun pair => pure (Reply.tokens pair)) [] := by
      intro rules
      refine tracedBind (tracedMono ?_ (tracedRefreshWith self rules token))
      intro own out rotates
      cases out with
      | ok pair => exact rotates
      | error error => trivial
    cases service <;> exact ends _
  | logout token => exact tracedMono (fun own out _ => by cases out <;> trivial) (tracedAny _)
  | revokeSession id userId current =>
    refine tracedBind (tracedMono ?_ (tracedRevokeSession self id userId current))
    intro own out revokes
    cases out with
    | ok value => exact revokes value rfl
    | error error => trivial

end Traces

section Runs

variable (self : Config) (world : World) (moves : List AuthMove)

theorem singleOfCount (single : ∀ family, liveTokens world family ≤ 1) : SingleLive world := by
  intro a insideA b insideB same liveA liveB
  have count := single b.familyId
  unfold liveTokens Table.count at count
  rw [List.countP_eq_length_filter] at count
  have mineA : a ∈ world.tokens.rows.filter fun row => row.familyId = b.familyId && row.live :=
    List.mem_filter.mpr ⟨insideA,by simp [same,liveA]⟩
  have mineB : b ∈ world.tokens.rows.filter fun row => row.familyId = b.familyId && row.live :=
    List.mem_filter.mpr ⟨insideB,by simp [liveB]⟩
  rcases rows : world.tokens.rows.filter fun row => row.familyId = b.familyId && row.live with _ | ⟨head,_ | ⟨next,rest⟩⟩
  · simp [rows] at mineA
  · simp only [rows,List.mem_singleton] at mineA mineB
    exact mineA.trans mineB.symm
  · simp [rows] at count

theorem familiesSecured (single : ∀ family, liveTokens world family ≤ 1)
    (random : AllMeet (DrawsNew world) ((service self).run (Pool.initial world) moves).history) :
    Secured (families world).contract (fun _ => anyEnd) ((service self).run (Pool.initial world) moves) := by
  have begin : Secured (families world).contract (fun _ => anyEnd) (Pool.initial world : AuthPool) := by
    refine securedInitial ⟨⟨singleOfCount world single,Multiset.nodup_zero,by simp,?_,by simp,trivial⟩,by simp⟩
    exact fun family used => Or.inl (by simpa using used)
  have ticks : ∀ elapsed c g, (families world).contract.inv c g →
      (families world).contract.inv { c with world := (service self).environment elapsed c.world } g :=
    fun _ _ _ ⟨issued,facts⟩ =>
      ⟨⟨issued.single,issued.distinct,issued.unused,issued.origin,issued.ended,issued.finished⟩,facts⟩
  exact securedRun (fun request => harmlessHandler self request 0) ticks begin moves random

theorem callsTraced : TracedPool KeepsTokens (returns self) ((service self).run (Pool.initial world) moves) :=
  tracedRun (fun _ => keepsStay rfl) keepsFollow (stepsHandler self) (fun _ _ => keepsStay rfl) (tracedHandler self) world moves

/-- A family never has two live tokens, and a refresh that succeeds has changed the
tokens in one call: it consumed a live one and stored one of the same family and user. -/
theorem singleLiveToken (single : ∀ family, liveTokens world family ≤ 1)
    (random : AllMeet (DrawsNew world) ((service self).run (Pool.initial world) moves).history) :
    (∀ family, liveTokens ((service self).run (Pool.initial world) moves).world family ≤ 1) ∧
    ∀ k kind token pair,
      ((service self).run (Pool.initial world) moves).threads[k]? = some ⟨.refresh kind token,.ret (.tokens pair)⟩ →
      ∃ e, (((service self).run (Pool.initial world) moves).own k).filter changesTokens = [e] ∧
        Rotation self token pair.refreshToken e := by
  constructor
  · obtain ⟨_,issued⟩ := Knowledge.securedBase (familiesSecured self world moves single random)
    exact liveAtMostOne issued.single
  · intro k kind token pair ended
    have returned : ((service self).run (Pool.initial world) moves).threads[k]? =
      some ⟨.refresh kind token,Process.ofExcept (.ok (.tokens pair))⟩ := ended
    exact tracedEnded (callsTraced self world moves) returned

def rotateAndIssue : List AuthMove :=
  [.start (.refresh .session "ann.f.0"),.start (.issueTokenPair .auth { id := "ann" }),.answer 0 {},.answer 1 { text := "g" },
    .environment 1000,.answer 0 {},.answer 1 {},.answer 1 { text := "s1" },.answer 0 { text := "s2" }]

theorem refreshRotates :
    (∀ family, liveTokens ((service plain).run (Pool.initial firstToken) rotateAndIssue).world family ≤ 1) ∧
    ∃ e, (((service plain).run (Pool.initial firstToken) rotateAndIssue).own 0).filter changesTokens = [e] ∧
      Rotation plain "ann.f.0" "ann.f.1" e := by
  have few : ∀ family, liveTokens firstToken family ≤ 1 := fun family => List.countP_le_length
  have both := singleLiveToken plain firstToken rotateAndIssue few (by decide +kernel)
  exact ⟨both.1,both.2 0 .session "ann.f.0" ⟨"ann.1","ann.f.1",{ id := "ann" }⟩ rfl⟩

/-- No other token of its family is live when the row of a session is revoked. -/
def RevokesCurrent (id : String) (e : AuthEvent) : Prop :=
  ∀ row, e.before.tokens.get? id = some row →
    ∀ other ∈ e.before.tokens.rows, other.familyId = row.familyId → other.live = true → other.id = id

/-- Once a revocation has returned that met the last live token of its family, no
token of the family is exchanged any more. -/
theorem revocationEndsSession (more : List AuthMove) (single : ∀ family, liveTokens world family ≤ 1)
    (random : AllMeet (DrawsNew world) ((service self).run (Pool.initial world) (moves ++ more)).history)
    {k : Nat} {id userId : String} {current : Option String} {reply : Reply}
    (returned : ((service self).run (Pool.initial world) moves).threads[k]? =
      some ⟨.revokeSession id userId current,.ret reply⟩)
    (meets : ∀ e ∈ ((service self).run (Pool.initial world) moves).own k, Revokes id e → RevokesCurrent id e)
    {row : RefreshToken} (stored : ((service self).run (Pool.initial world) moves).world.tokens.get? id = some row)
    {later : List AuthEvent}
    (after : ((service self).run (Pool.initial world) (moves ++ more)).history =
      later ++ ((service self).run (Pool.initial world) moves).history) :
    ∀ e ∈ later, ¬ Exchanges row.familyId e := by
  have traced := callsTraced self world moves
  have ended : ((service self).run (Pool.initial world) moves).threads[k]? =
    some ⟨.revokeSession id userId current,Process.ofExcept (.ok reply)⟩ := returned
  obtain ⟨d,mine,revokes⟩ := tracedEnded traced ended
  obtain ⟨site,answered,row',found⟩ := revokes
  have there : d ∈ ((service self).run (Pool.initial world) moves).history := (List.mem_filter.mp mine).1
  have last : RevokesLast row'.familyId d := ⟨id,row',site,answered,found,rfl,meets d mine ⟨site,answered,row',found⟩ row' found⟩
  obtain ⟨_,issued⟩ := Knowledge.securedBase (familiesSecured self world (moves ++ more) single random)
  have finished := issued.finished
  have family : row.familyId = row'.familyId := by
    obtain ⟨step,since⟩ := traced.past d there
    obtain ⟨now,found',same⟩ := keepsFollow step since id row' found
    cases Option.some.inj (found'.symm.trans stored)
    exact same.familyId
  rw [family]
  intro e inside exchanged
  have finished := issued.finished
  obtain ⟨newer,older,rfl⟩ := List.append_of_mem inside
  have history : ((service self).run (Pool.initial world) (moves ++ more)).history =
      newer ++ (e :: (older ++ ((service self).run (Pool.initial world) moves).history)) := by simp [after]
  have tail := meetsSuffix ⟨newer,history.symm⟩ finished
  exact tail.1 _ exchanged d (List.mem_append_right _ there) last

def revokeListed (id : String) : List AuthMove := [.start (.revokeSession id "ann" none),.answer 0 {},.answer 0 {}]

def refreshAgain (thread : Nat) : List AuthMove :=
  [.start (.refresh .auth "ann.f.1"),.answer thread {},.environment 1000,.answer thread {},.answer thread { text := "s3" }]

theorem revokedSessionEnds :
    ((service plain).run (Pool.initial rotatedOnce) (revokeListed "s1")).threads[0]? =
      some ⟨.revokeSession "s1" "ann" none,.ret (.revoked false)⟩ ∧
    ∀ e ∈ ((service plain).run (Pool.initial rotatedOnce) (revokeListed "s1" ++ refreshAgain 1)).history.take 1,
      ¬ Exchanges "f" e := by
  have few : ∀ family, liveTokens rotatedOnce family ≤ 1 := by
    intro family
    by_cases here : family = "f"
    · subst here
      decide
    · simp [liveTokens,Table.count,rotatedOnce,session,Ne.symm here]
  have row : ((service plain).run (Pool.initial rotatedOnce) (revokeListed "s1")).world.tokens.get? "s1" =
      some { session "s1" "ann.f.1" none with revokedAt := some 2000 } := rfl
  have returned : ((service plain).run (Pool.initial rotatedOnce) (revokeListed "s1")).threads[0]? =
      some ⟨.revokeSession "s1" "ann" none,.ret (.revoked false)⟩ := rfl
  have last : ∀ e ∈ ((service plain).run (Pool.initial rotatedOnce) (revokeListed "s1")).own 0,
      ∀ other ∈ e.before.tokens.rows, other.live = true → other.id = "s1" := by decide +kernel
  refine ⟨returned,?_⟩
  exact revocationEndsSession plain rotatedOnce (revokeListed "s1") (refreshAgain 1) few (by decide +kernel) returned
    (fun e inside _ _ _ other there _ live => last e inside other there live) row (List.take_append_drop 1 _).symm

def revokeDuringRefresh : List AuthMove :=
  [.start (.refresh .session "ann.f.0"),.start (.revokeSession "s0" "ann" none),.answer 0 {},.answer 1 {},.environment 1000,
    .answer 0 {},.answer 0 { text := "s1" },.answer 1 {}]

/-- A consumed row of the session is revoked, and the token that replaced it is exchanged.
The list names the row, or a rotation consumes it while the revocation runs. -/
theorem revokedSessionRefreshes :
    (sessionsOf false "ann" rotatedOnce).map ListedSession.id = ["s0","s1"] ∧
    ((service plain).run (Pool.initial rotatedOnce) (revokeListed "s0")).threads[0]? =
      some ⟨.revokeSession "s0" "ann" none,.ret (.revoked false)⟩ ∧
    (∃ later, ((service plain).run (Pool.initial rotatedOnce) (revokeListed "s0" ++ refreshAgain 1)).history =
        later ++ ((service plain).run (Pool.initial rotatedOnce) (revokeListed "s0")).history ∧
      ∃ e ∈ later, Exchanges "f" e) ∧
    (sessionsOf false "ann" firstToken).map ListedSession.id = ["s0"] ∧
    ((service plain).run (Pool.initial firstToken) revokeDuringRefresh).threads[1]? =
      some ⟨.revokeSession "s0" "ann" none,.ret (.revoked false)⟩ ∧
    ∃ later, ((service plain).run (Pool.initial firstToken) (revokeDuringRefresh ++ refreshAgain 2)).history =
        later ++ ((service plain).run (Pool.initial firstToken) revokeDuringRefresh).history ∧
      ∃ e ∈ later, Exchanges "f" e := by
  refine ⟨by decide +kernel,rfl,⟨_,(List.take_append_drop 3 _).symm,_,List.Mem.head _,?_⟩,by decide +kernel,rfl,
    ⟨_,(List.take_append_drop 3 _).symm,_,List.Mem.head _,?_⟩⟩
  · refine ⟨"s1",_,rfl,rfl,rfl,?_⟩
    exact fun same => absurd (congrArg List.length same) (by decide)
  · refine ⟨"s1",_,rfl,rfl,rfl,?_⟩
    exact fun same => absurd (congrArg List.length same) (by decide)

end Runs

end HireSettle.Auth
