import TransactDerive.Syn
import TransactDerive.Attributes
import TransactDerive.TypeShape
import TransactDerive.Expand
import TransactDerive.Companion
import TransactDerive.Runtime
import TransactDerive.Refinement
import TransactDerive.Getters
import TransactDerive.Safety
import TransactDerive.Congruence
import TransactDerive.BuilderName
import TransactDerive.Outcome
import TransactDerive.Session
import TransactDerive.ForeignAttrs
