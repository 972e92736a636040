import VerdictClient.Proofs.Correlator

namespace VerdictClient.Correlator

variable {τ : Type} {c : Correlator τ} {g h : Text} {m n : Nat} {v w : VerdictResponse}

end VerdictClient.Correlator
