import Scaffold.Main
import Scaffold.Proofs.Command.Failure
import Scaffold.Proofs.Command.Loading
import Scaffold.Proofs.Field.Grammar
import Scaffold.Proofs.Interview.Default
import Scaffold.Proofs.Interview.Path
import Scaffold.Proofs.Interview.Session
import Scaffold.Proofs.Solidity.Import
import Scaffold.Proofs.Solidity.Method
import Scaffold.Proofs.Solidity.Name
import Scaffold.Proofs.Solidity.Recovery
import Scaffold.Proofs.Solidity.Schema
import Scaffold.Proofs.Solidity.Specialization
import Scaffold.Proofs.Command.ContractFile
import Scaffold.Proofs.Command.Outcome
import Scaffold.Field.BracketStack
import Scaffold.Proofs.Field.BracketStack
import Scaffold.Number.Checked
import Scaffold.Proofs.Number.Checked
import Scaffold.Proofs.Command.Arguments
import Scaffold.Proofs.Interview.Count
