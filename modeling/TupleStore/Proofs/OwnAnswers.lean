import TupleStore.Proofs.Keeping

/-!
# Every caller gets its own answer

When a link changes hands, everything which its server has written is read.  So what
a task reads is the answer to the request it has sent, and a link on which a request
failed is not used again.
-/

namespace TupleStore.Network

def Line.EndsWith (line : Line) (task : Nat) : Prop :=
  ∀ (earlier later : Nat) packet other packet', earlier < later →
    line.requests[earlier]? = some (task, packet) →
      line.requests[later]? = some (other, packet') → other = task

variable {slots : List (Option Connection)} {lines : List Line} {holds : Nat → Hold}
variable {keeper : Link → Keeper}

/-! ## The server -/

theorem Kept.serve {link : Link} {line line' : Line} (kept : Kept slots lines holds keeper)
    (hline : lines[link]? = some line)
    (fits : ∀ task phase, Phase.Fits task line phase → Phase.Fits task line' phase)
    (grows : line.Grows line') (orderly : line'.Orderly (Clean holds) (keeper link)) :
    Kept slots (lines.set link line') holds keeper := by
  have hself : (lines.set link line')[link]? = some line' :=
    List.getElem?_set_self (List.getElem?_eq_some_iff.mp hline).1
  have hlines : ∀ (other : Link) before, lines[other]? = some before →
      ∃ after, (lines.set link line')[other]? = some after ∧ before.Grows after ∧
        ∀ task phase, Phase.Fits task before phase → Phase.Fits task after phase := by
    intro other before hbefore
    by_cases h : other = link
    · subst h
      rw [hline] at hbefore
      cases hbefore
      exact ⟨line', hself, grows, fits⟩
    · exact ⟨before, (List.getElem?_set_ne (Ne.symm h)).trans hbefore, .refl before,
        fun _ _ => id⟩
  refine ⟨fun task link phase h => ?_, fun slot connection h => ?_, fun other after h => ?_,
    fun task exchange h => ?_⟩
  · obtain ⟨hkeeper, before, hbefore, hfits⟩ := kept.hand task link phase h
    obtain ⟨after, hafter, _, stays⟩ := hlines link before hbefore
    exact ⟨hkeeper, after, hafter, stays task phase hfits⟩
  · obtain ⟨hkeeper, before, hbefore, quiet⟩ := kept.idle slot connection h
    obtain ⟨after, hafter, _, stays⟩ := hlines _ before hbefore
    exact ⟨hkeeper, after, hafter, (stays 0 .quiet (.quiet quiet)).of_quiet⟩
  · by_cases hsame : other = link
    · subst hsame
      rw [hself] at h
      cases h
      exact orderly
    · rw [List.getElem?_set_ne (Ne.symm hsame)] at h
      exact kept.orderly other after h
  · obtain ⟨before, request, hbefore, hasked, hanswer⟩ := kept.log task exchange h
    obtain ⟨after, hafter, grows, _⟩ := hlines _ before hbefore
    exact ⟨after, request, hafter, grows.asked hasked, grows.answers hanswer⟩

/-! ## Runs -/

namespace System

structure Sound (system : System) (holds : Nat → Hold) (keeper : Link → Keeper) : Prop where
  kept : Kept system.pool.slots system.lines holds keeper
  programs : ∀ task job program, system.tasks[task]? = some ⟨job, some program⟩ →
    Ensures (Finished job) program (holds task)
  fresh : ∀ task, system.tasks.length ≤ task → holds task = {}
  opening : ∃ program, system.tasks[0]? = some ⟨.opening, program⟩

variable {config : Config} {system : System}

theorem sound_start : (start config).Sound (fun _ => {}) fun _ => .task 0 where
  kept := by
    refine ⟨nofun, fun slot connection h => ?_, nofun, nofun⟩
    change (config.slots.map fun _ => none)[slot]? = _ at h
    rw [List.getElem?_map, Option.map_eq_some_iff] at h
    obtain ⟨_, _, h⟩ := h
    contradiction
  programs task job program h := by
    obtain ⟨hlt, h⟩ := List.getElem?_eq_some_iff.mp h
    obtain rfl := Nat.lt_one_iff.mp hlt
    cases h
    exact ensures_program config .opening
  fresh _ _ := rfl
  opening := ⟨_, rfl⟩

theorem Sound.call (sound : system.Sound holds keeper) (code : UInt8) (body : Body) :
    (system.step config (.call code body)).Sound holds keeper where
  kept := sound.kept
  programs task job program h := by
    change (system.tasks ++ _)[task]? = _ at h
    rcases Nat.lt_or_ge task system.tasks.length with hlt | hge
    · rw [List.getElem?_append_left hlt] at h
      exact sound.programs task job program h
    · rw [sound.fresh task hge]
      rw [List.getElem?_append_right hge] at h
      obtain ⟨_, h⟩ := List.getElem?_eq_some_iff.mp h
      rw [List.getElem_singleton] at h
      cases h
      exact ensures_program config (.request code body)
  fresh task h := by
    refine sound.fresh task (Nat.le_trans ?_ h)
    change _ ≤ (system.tasks ++ _).length
    rw [List.length_append]
    exact Nat.le_add_right _ _
  opening := by
    obtain ⟨program, h⟩ := sound.opening
    exact ⟨program, (List.getElem?_append_left (List.getElem?_eq_some_iff.mp h).1).trans h⟩

theorem opening_set {task : Nat} {job : Job} {before after : Option (Action (List Value))}
    (htask : system.tasks[task]? = some ⟨job, before⟩)
    (opening : ∃ program, system.tasks[0]? = some ⟨.opening, program⟩) :
    ∃ program, (system.tasks.set task ⟨job, after⟩)[0]? = some ⟨.opening, program⟩ := by
  obtain ⟨program, h⟩ := opening
  by_cases hzero : task = 0
  · subst hzero
    rw [htask] at h
    cases h
    exact ⟨after, List.getElem?_set_self (List.getElem?_eq_some_iff.mp htask).1⟩
  · exact ⟨program, (List.getElem?_set_ne hzero).trans h⟩

theorem Sound.leave (sound : system.Sound holds keeper) (task : Nat) :
    (system.leave task).Sound holds keeper := by
  rw [System.leave]
  split
  next job before htask =>
    refine ⟨sound.kept, fun other job' program h => ?_, fun other h => ?_,
      opening_set htask sound.opening⟩
    · by_cases hsame : task = other
      · subst hsame
        rw [List.getElem?_set_self (List.getElem?_eq_some_iff.mp htask).1] at h
        cases h
      · rw [List.getElem?_set_ne hsame] at h
        exact sound.programs other job' program h
    · rw [List.length_set] at h
      exact sound.fresh other h
  next => exact sound

theorem Sound.turn (sound : system.Sound holds keeper) (task : Nat) (choice : Choice) :
    ∃ holds keeper, (system.turn task choice).Sound holds keeper := by
  rw [System.turn]
  split
  next job op next htask =>
    split
    · exact ⟨holds, keeper, sound⟩
    split
    next => exact ⟨holds, keeper, sound⟩
    next reply pool lines hhandle =>
      obtain ⟨may, hnext⟩ := sound.programs task job _ htask
      obtain ⟨hold, keeper', next, kept⟩ := sound.kept.turn may (effect_of_handle hhandle)
      have hlt := (List.getElem?_eq_some_iff.mp htask).1
      refine ⟨_, keeper', kept, fun other job' program h => ?_, fun other h => ?_,
        opening_set htask sound.opening⟩
      · by_cases hsame : other = task
        · subst hsame
          rw [List.getElem?_set_self hlt] at h
          cases h
          rw [Function.update_self]
          exact hnext reply hold next
        · rw [List.getElem?_set_ne (Ne.symm hsame)] at h
          rw [Function.update_of_ne hsame]
          exact sound.programs other job' program h
      · rw [List.length_set] at h
        rw [Function.update_of_ne (Nat.ne_of_gt (Nat.lt_of_lt_of_le hlt h))]
        exact sound.fresh other h
  next => exact ⟨holds, keeper, sound⟩

theorem Sound.onLine {change : Line → Line} (sound : system.Sound holds keeper) (link : Link)
    (fits : ∀ (line : Line) task phase, line.Orderly (Clean holds) (keeper link) →
      Phase.Fits task line phase → Phase.Fits task (change line) phase)
    (grows : ∀ line : Line, line.Grows (change line))
    (orderly : ∀ line, line.Orderly (Clean holds) (keeper link) →
      (change line).Orderly (Clean holds) (keeper link)) :
    (system.onLine link change).Sound holds keeper := by
  rw [System.onLine]
  split
  next => exact sound
  next line hline =>
    have before := sound.kept.orderly link line hline
    exact ⟨sound.kept.serve hline (fun task phase => fits line task phase before) (grows line)
      (orderly line before), sound.programs, sound.fresh, sound.opening⟩

theorem Sound.step (sound : system.Sound holds keeper) (event : Event) :
    ∃ holds keeper, (system.step config event).Sound holds keeper := by
  cases event with
  | call code body => exact ⟨holds, keeper, sound.call code body⟩
  | turn task choice => exact sound.turn task choice
  | leave task => exact ⟨holds, keeper, sound.leave task⟩
  | answer link request head payload =>
      exact ⟨holds, keeper, sound.onLine link (fun _ _ _ orderly fits => orderly.fits_answer fits)
        (fun line => line.grows_answer request head payload) fun _ orderly => orderly.answer⟩
  | arrive link count =>
      exact ⟨holds, keeper, sound.onLine link (fun _ _ _ _ fits => Line.fits_arrive fits count)
        (fun line => line.grows_arrive count) fun _ orderly => orderly.of_arrive count⟩

theorem Sound.run (sound : system.Sound holds keeper) (events : List Event) :
    ∃ holds keeper, (system.run config events).Sound holds keeper := by
  induction events generalizing system holds keeper with
  | nil => exact ⟨holds, keeper, sound⟩
  | cons event events ih =>
      obtain ⟨holds, keeper, sound⟩ : ∃ holds keeper,
          (system.step config event).Sound holds keeper := sound.step event
      exact ih sound

theorem sound_run (config : Config) (events : List Event) :
    ∃ holds keeper, ((start config).run config events).Sound holds keeper :=
  sound_start.run events

/-! ## Results -/

/-- A packet of a server which answers a request of the task itself tells it this result. -/
def Told (system : System) (task : Nat) (code : UInt8) (body : Body)
    (result : Except Fault (List Value)) : Prop :=
  ∃ exchange : Exchange, exchange.Tells code body result ∧ ∃ line request,
    system.lines[exchange.link]? = some line ∧
      line.requests[request]? = some (task, exchange.packet) ∧
      (request, exchange.payload) ∈ line.answers

theorem Sound.told {task : Nat} {code : UInt8} {body : Body} {result : Except Fault (List Value)}
    (sound : system.Sound holds keeper)
    (h : ∃ exchange ∈ (holds task).log, exchange.Tells code body result) :
    system.Told task code body result := by
  obtain ⟨exchange, hmem, tells⟩ := h
  exact ⟨exchange, tells, sound.kept.log task exchange hmem⟩

/-- After a request which ended with the loss of its link no other task uses the link. -/
theorem Sound.last {caller : Nat} {code : UInt8} {body : Body}
    {result : Except Fault (List Value)} (sound : system.Sound holds keeper)
    (ended : system.Ended caller code body result) (hdrops : drops result = true) {link : Link}
    {line : Line} (hline : system.lines[link]? = some line) : line.EndsWith caller := by
  intro earlier later packet other packet' hlt hearlier hlater
  have unclean : ¬ Clean holds caller := by
    rintro (rfl | returned)
    · obtain ⟨_, opening⟩ := sound.opening
      rw [show system.tasks[0]? = _ from ended] at opening
      cases opening
    · rw [(sound.programs caller _ _ ended).clean nofun hdrops] at returned
      contradiction
  obtain ⟨owner, before, after, hsplit, hbefore, hafter, _⟩ :=
    (sound.kept.orderly link line hline).split
  rw [hsplit] at hearlier hlater
  have hge : before.length ≤ earlier := by
    by_contra hin
    rw [List.getElem?_append_left (Nat.lt_of_not_le hin)] at hearlier
    exact unclean (hbefore _ (List.mem_of_getElem? hearlier))
  rw [List.getElem?_append_right hge] at hearlier
  rw [List.getElem?_append_right (Nat.le_trans hge (Nat.le_of_lt hlt))] at hlater
  have hother : other = owner := hafter _ (List.mem_of_getElem? hlater)
  have hcaller : caller = owner := hafter _ (List.mem_of_getElem? hearlier)
  rw [hother, hcaller]

/--
In every run, what the result of a request tells, also about the authentication, is
told by the server's answer to a request of the same caller.  After a request which
ended with a fault of the connection or with a timeout, no other caller sends a
request on the same link; and whenever a request on a link is not the last one, it
was answered with its own number.
-/
theorem results_own (config : Config) (events : List Event) :
    let system := (start config).run config events
    (∀ caller code body result, system.Ended caller code body result →
      (speaks result = true → system.Told caller code body result) ∧
      (∀ cause, result = .error (.authentication cause) → speaks (.error cause) = true →
        ∃ auth, system.Told caller RequestCode.authenticate auth (.error cause)) ∧
      (drops result = true → ∀ line ∈ system.lines, line.EndsWith caller)) ∧
    ∀ line ∈ system.lines, ∀ request, request + 1 < line.requests.length → line.Answered request := by
  intro system
  obtain ⟨holds, keeper, sound⟩ := sound_run config events
  have hlink : ∀ line ∈ system.lines, ∃ link : Link, system.lines[link]? = some line :=
    fun line => List.mem_iff_getElem?.mp
  refine ⟨fun caller code body result ended => ?_, fun line hline => ?_⟩
  · have own := (sound.programs caller _ _ ended).own
    refine ⟨fun hspeaks => sound.told (own.told code body rfl hspeaks), ?_, ?_⟩
    · intro cause hresult hspeaks
      obtain ⟨exchange, hmem, auth, tells⟩ := own.refused cause hresult hspeaks
      exact ⟨auth, sound.told ⟨exchange, hmem, tells⟩⟩
    · intro hdrops line hline
      obtain ⟨link, hline⟩ := hlink line hline
      exact sound.last ended hdrops hline
  · obtain ⟨link, hline⟩ := hlink line hline
    exact (sound.kept.orderly link line hline).answered

def saying (sync : Nat) (text : String) : Bytes :=
  MessagePack.encode (.map [(.nat 0x00, .nat 0), (.nat 0x01, .nat sync)]) ++
    MessagePack.encode (.map [(.nat 0x30, .array [.text text])])

/-- Two callers share the only link of a pool.  The second is the first to use it; the other's
answer does not arrive. -/
def sharing : List Event :=
  [.turn 0 { greeting := List.replicate Greeting.size 65 }, .arrive 0 128, .turn 0 {}, .turn 0 {},
    .call RequestCode.ping [], .call RequestCode.select [],
    .turn 1 {}, .turn 2 {}, .turn 2 {}, .turn 1 {}, .turn 2 {},
    .answer 0 0 [0xce, 0, 0, 0, 14] (saying 1 "first"), .arrive 0 3, .turn 2 {}, .arrive 0 100,
    .turn 2 {}, .turn 2 {}, .turn 2 {},
    .turn 1 {}, .turn 1 {}, .turn 1 { interruption := some (.lost "closed") }, .turn 1 {},
    .turn 1 {}]

set_option maxRecDepth 4000 in
theorem results_own_sharing :
    ((start {}).run {} sharing).Ended 2 RequestCode.select [] (.ok [.text "first"]) ∧
    ((start {}).run {} sharing).Told 2 RequestCode.select [] (.ok [.text "first"]) ∧
    ((start {}).run {} sharing).Ended 1 RequestCode.ping [] (.error (.lost "closed")) ∧
    ∀ line ∈ ((start {}).run {} sharing).lines, line.EndsWith 1 := by
  have first : ((start {}).run {} sharing).Ended 2 RequestCode.select [] (.ok [.text "first"]) :=
    rfl
  have second : ((start {}).run {} sharing).Ended 1 RequestCode.ping []
    (.error (.lost "closed")) := rfl
  exact ⟨first, ((results_own {} sharing).1 _ _ _ _ first).1 rfl, second,
    ((results_own {} sharing).1 _ _ _ _ second).2.2 rfl⟩

end System

end TupleStore.Network
