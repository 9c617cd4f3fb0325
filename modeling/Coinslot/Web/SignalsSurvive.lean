import Coinslot.Web.CardSignals

/-!
# What redeliveries leave of a card signal

A receipt that is processed stays processed, and a signal that is detached stays detached (`Keeps`), through
every run of deliveries and owners in which two writes come in time (`signals_survive`): a delivery notes its
failure while its receipt is not processed, and writes what it read back while the signal is not detached.
Neither write looks: the failure of a delivery whose lease was over is written over what another delivery of
the event processed, and a set-up that was read back before its card was detached attaches it again.
-/

namespace Coinslot

/-- Whether the writes of a step that do not look come in time. -/
def InTime (s : CardDesk) : CardAction → Prop
  | .fails d _ =>
    ∀ delivery, s.deliveries.get d = some delivery → ∀ receipt,
      s.db.receipts.get delivery.event.id = some receipt → receipt.status ≠ .processed
  | .attaches d _ _ _ =>
    ∀ event payloadHash attachment, s.deliveries.get d = some ⟨event, payloadHash, .attaching attachment⟩ →
      ∀ id signal, s.db.signals.get id = some signal → signal.setupIntentId = attachment.setupIntentId →
        signal.status ≠ .detached
  | _ => True

namespace CardTables

variable {db db' db'' : CardTables}

/-- What was processed stays processed, and what was detached stays detached. -/
structure Keeps (db db' : CardTables) : Prop where
  processed : ∀ eventId receipt, db.receipts.get eventId = some receipt → receipt.status = .processed →
    ∃ receipt', db'.receipts.get eventId = some receipt' ∧ receipt'.status = .processed
  detached : ∀ id signal, db.signals.get id = some signal → signal.status = .detached →
    ∃ signal', db'.signals.get id = some signal' ∧ signal'.status = .detached

theorem Keeps.refl (db : CardTables) : db.Keeps db :=
  ⟨fun _ receipt hreceipt hprocessed => ⟨receipt, hreceipt, hprocessed⟩,
    fun _ signal hsignal hdetached => ⟨signal, hsignal, hdetached⟩⟩

theorem Keeps.trans (h : db.Keeps db') (h' : db'.Keeps db'') : db.Keeps db'' := by
  refine ⟨fun eventId receipt hreceipt hprocessed => ?_, fun id signal hsignal hdetached => ?_⟩
  · obtain ⟨receipt', hreceipt', hprocessed'⟩ := h.processed eventId receipt hreceipt hprocessed
    exact h'.processed eventId receipt' hreceipt' hprocessed'
  · obtain ⟨signal', hsignal', hdetached'⟩ := h.detached id signal hsignal hdetached
    exact h'.detached id signal' hsignal' hdetached'

/-! ## Writes -/

variable {eventId : String}

theorem keeps_receipt {receipt : WebhookReceipt} (h : receipt.status = .processed ∨
      ∀ old, db.receipts.get eventId = some old → old.status ≠ .processed) :
    db.Keeps { db with receipts := db.receipts.set eventId receipt } := by
  refine ⟨fun other old hold hprocessed => ?_, (Keeps.refl db).detached⟩
  rw [Dict.get_set]
  split
  · next heq =>
    subst heq
    rcases h with hnow | hbefore
    · exact ⟨receipt, rfl, hnow⟩
    · exact absurd hprocessed (hbefore old hold)
  · exact ⟨old, hold, hprocessed⟩

theorem keeps_signal {id : String} {signal : PaymentSignal}
    (h : signal.status = .detached ∨ ∀ old, db.signals.get id = some old → old.status ≠ .detached) :
    db.Keeps { db with signals := db.signals.set id signal } := by
  refine ⟨(Keeps.refl db).processed, fun other old hold hdetached => ?_⟩
  rw [Dict.get_set]
  split
  · next heq =>
    subst heq
    rcases h with hnow | hbefore
    · exact ⟨signal, rfl, hnow⟩
    · exact absurd hdetached (hbefore old hold)
  · exact ⟨old, hold, hdetached⟩

section

variable (db : CardTables)

theorem insertReceipt_keeps (eventId payloadHash : String) (leaseStartedAt : Int) :
    db.Keeps (db.insertReceipt eventId payloadHash leaseStartedAt).1 := by
  unfold insertReceipt
  split
  · exact .refl db
  · next hnone => exact keeps_receipt (.inr fun old hold => absurd (Option.isSome_of_eq_some hold) hnone)

theorem claimReceipt_keeps (eventId : String) (leaseStartedAt : Int) :
    db.Keeps (db.claimReceipt eventId leaseStartedAt).1 := by
  unfold claimReceipt
  split
  · exact .refl db
  · next receipt hreceipt =>
    dsimp only
    split
    · next hopen =>
      refine keeps_receipt (.inr fun old hold hprocessed => ?_)
      cases hreceipt.symm.trans hold
      simp [hprocessed] at hopen
    · exact .refl db

theorem completeReceipt_keeps (eventId : String) (now : Int) : db.Keeps (db.completeReceipt eventId now) := by
  unfold completeReceipt setReceipt
  split
  · exact .refl db
  · exact keeps_receipt (.inl rfl)

end

theorem failReceipt_keeps (now : Int)
    (h : ∀ receipt, db.receipts.get eventId = some receipt → receipt.status ≠ .processed) :
    db.Keeps (db.failReceipt eventId now) := by
  unfold failReceipt setReceipt
  split
  · exact .refl db
  · exact keeps_receipt (.inr h)

theorem attachFromReadback_keeps {encrypt : String → String} {attachment : CardAttachment}
    {linked : Except String Unit} {now : Int}
    (h : ∀ id signal, db.signals.get id = some signal → signal.setupIntentId = attachment.setupIntentId →
      signal.status ≠ .detached) (hdone : db.attachFromReadback encrypt eventId attachment linked now = .ok db') :
    db.Keeps db' := by
  unfold attachFromReadback at hdone
  split at hdone
  · cases hdone
  · next id signal hfound =>
    split at hdone
    · cases hdone
    · split at hdone
      · cases hdone
      · cases hdone
        have hsetup : signal.setupIntentId = attachment.setupIntentId := by simpa using List.find?_some hfound
        have hget : db.signals.get id = some signal := Dict.get_eq_some_iff.2 (List.mem_of_find?_eq_some hfound)
        refine (keeps_signal (.inr fun old hold => ?_)).trans (completeReceipt_keeps _ eventId now)
        cases hget.symm.trans hold
        exact h id signal hget hsetup

theorem detach_keeps (db : CardTables) (id : String) (now : Int) : db.Keeps (db.detach id now) := by
  unfold detach
  split
  · exact .refl db
  · split
    · exact keeps_signal (.inl rfl)
    · exact .refl db

end CardTables

/-! ## Steps and runs -/

/-- **A step keeps what was processed and what was detached**, where its writes come in time. -/
theorem CardDesk.step_keeps {cipher : CardCipher} {s s' : CardDesk} {action : CardAction} {out : List Empty}
    (hintime : InTime s action) (h : s.step cipher action = .ok (s', out)) : s.db.Keeps s'.db := by
  cases action with
  | arrives d event payloadHash =>
    simp only [step] at h
    split at h
    · cases h
    · cases h; exact .refl s.db
  | inserts d leaseStartedAt =>
    simp only [step] at h
    split at h
    · cases h; exact s.db.insertReceipt_keeps _ _ leaseStartedAt
    · cases h
  | reads d =>
    simp only [step] at h
    split at h
    · cases h
      unfold reads
      split
      · exact .refl s.db
      · split
        · exact .refl s.db
        · split
          · exact .refl s.db
          · exact .refl s.db
    · cases h
  | claims d =>
    simp only [step] at h
    split at h
    · next event _ leaseStartedAt _ =>
      cases h
      have hkeeps := s.db.claimReceipt_keeps event.id leaseStartedAt
      split
      · exact hkeeps
      · exact hkeeps
    · cases h
  | handles d answer =>
    simp only [step] at h
    split at h
    · cases h
      unfold handles
      split
      · exact .refl s.db
      · split
        · exact .refl s.db
        · split
          · exact .refl s.db
          · exact .refl s.db
    · cases h
  | completes d now answered =>
    simp only [step] at h
    split at h
    · next event _ _ =>
      cases h
      have hkeeps := s.db.completeReceipt_keeps event.id now
      cases answered with
      | true => exact hkeeps
      | false => exact hkeeps
    · cases h
  | attaches d linked now answered =>
    simp only [step] at h
    split at h
    · next event payloadHash attachment hd =>
      cases h
      unfold attaches
      split
      · exact .refl s.db
      · next hdone =>
        have hkeeps := CardTables.attachFromReadback_keeps (hintime event payloadHash attachment hd) hdone
        cases answered with
        | true => exact hkeeps
        | false => exact hkeeps
    · cases h
  | throws d =>
    simp only [step] at h
    split at h
    · cases h
      split
      · exact .refl s.db
      · exact .refl s.db
    · cases h
  | fails d now =>
    simp only [step] at h
    split at h
    · next hd => cases h; exact CardTables.failReceipt_keeps now (hintime _ hd)
    · cases h
  | dies d => cases h; exact .refl s.db
  | asks o signalId leadId =>
    simp only [step] at h
    split at h
    · cases h
    · cases h; exact .refl s.db
  | looks o =>
    simp only [step] at h
    split at h
    · cases h
      unfold looks
      split
      · exact .refl s.db
      · split
        · exact .refl s.db
        · split
          · exact .refl s.db
          · exact .refl s.db
    · cases h
  | detaches o detached readback =>
    simp only [step] at h
    split at h
    · cases h
      unfold detaches
      split
      · exact .refl s.db
      · exact .refl s.db
    · cases h
  | notes o now =>
    simp only [step] at h
    split at h
    · cases h; exact s.db.detach_keeps _ now
    · cases h
  | leaves o => cases h; exact .refl s.db

/-- **A card signal survives redeliveries.** From whatever the tables are, and in every run whose failures and
attachments come in time: a receipt that is processed at some point of the run is processed at every later
one, and a signal that is detached is detached. -/
theorem signals_survive (cipher : CardCipher) (db : CardTables) (actions more : List CardAction)
    (hintime : (cardMachine cipher).Meets InTime (.start db) (actions ++ more)) :
    (cardRun cipher db actions).db.Keeps (cardRun cipher db (actions ++ more)).db := by
  obtain ⟨-, hmore⟩ := (cardMachine cipher).meets_append.1 hintime
  rw [cardRun, cardRun, Reactor.run_append]
  exact (cardMachine cipher).run_induction_meeting
    (P := fun s => (cardRun cipher db actions).db.Keeps s.db)
    (fun hkeeps hintime h => hkeeps.trans (CardDesk.step_keeps hintime h)) (.refl _) more hmore

/-- A card was set up, and no webhook told of it yet. -/
def setUpCard : CardTables where
  receipts := .empty
  signals := Dict.empty.set "signal_1" ⟨"lead_1", "cus_1", "seti_1", none, .setupPending, none, none⟩

def openCipher : CardCipher := ⟨id, id⟩

def setUpEvent : CardSignalWebhookEvent := ⟨"evt_1", "setup_intent.succeeded", some "seti_1"⟩

def setUpAnswer : SetupAnswer :=
  ⟨⟨"seti_1", "cus_1", some "pm_1", .succeeded, "on_session", "lead_1", "scan_1"⟩, ⟨"pm_1", some "cus_1"⟩⟩

/-- A delivery attaches the signal, and its answer is lost on the way. -/
def cardAttached : List CardAction :=
  [.arrives 0 setUpEvent "hash_1", .inserts 0 0, .handles 0 (some setUpAnswer), .attaches 0 (.ok ()) 1000 true]

/-- The owner detaches the card, and the event is delivered once more. -/
def cardDetached : List CardAction :=
  [.asks 0 "signal_1" "lead_1", .looks 0, .detaches 0 ⟨"pm_1", none⟩ ⟨"pm_1", none⟩, .notes 0 2000,
    .arrives 1 setUpEvent "hash_1", .inserts 1 400000, .reads 1]

/-- The receipt stays processed throughout. -/
theorem detached_signal_survives :
    (cardRun openCipher setUpCard cardAttached).db.Keeps
      (cardRun openCipher setUpCard (cardAttached ++ cardDetached)).db := by
  refine signals_survive openCipher setUpCard cardAttached cardDetached ⟨trivial, trivial, trivial, ?_, ?_⟩
  · intro event payloadHash attachment _ id signal hsignal _ hdetached
    have hmem := Dict.get_eq_some_iff.1 hsignal
    cases List.mem_singleton.1 hmem
    cases hdetached
  · exact ⟨trivial, trivial, trivial, trivial, trivial, trivial, trivial, trivial⟩

/-- A delivery reads the set-up back and stalls; when its lease is over the event is delivered once more, and
that attaches the signal; the owner detaches the card. -/
def stalledDelivery : List CardAction :=
  [.arrives 0 setUpEvent "hash_1", .inserts 0 0, .handles 0 (some setUpAnswer),
    .arrives 1 setUpEvent "hash_1", .inserts 1 400000, .reads 1, .claims 1, .handles 1 (some setUpAnswer),
    .attaches 1 (.ok ()) 401000 true,
    .asks 0 "signal_1" "lead_1", .looks 0, .detaches 0 ⟨"pm_1", none⟩ ⟨"pm_1", none⟩, .notes 0 402000]

/-- The stalled delivery attaches the card again. -/
theorem detached_signal_attached : ¬ ∀ (cipher : CardCipher) (db : CardTables) (actions more : List CardAction),
    (cardRun cipher db actions).db.Keeps (cardRun cipher db (actions ++ more)).db := by
  intro h
  obtain ⟨signal, hsignal, hdetached⟩ :=
    (h openCipher setUpCard stalledDelivery [.attaches 0 (.ok ()) 403000 true]).detached "signal_1" _ rfl rfl
  cases hsignal
  cases hdetached

end Coinslot
