import FramedRpc.Frame.Rounds
import FramedRpc.Stream.Coder
import FramedRpc.Transport.PacketStream
import FramedRpc.Transport.SocketHost
import FramedRpc.Endpoint.CallDesk
import FramedRpc.Endpoint.Network
import FramedRpc.Cli.Demo
import FramedRpc.Cli.Program
import FramedRpc.Main
import FramedRpc.Proofs.Codec.Acceptance
import FramedRpc.Proofs.Frame.Run
import FramedRpc.Proofs.Frame.Integrity
import FramedRpc.Proofs.Frame.Passage
import FramedRpc.Proofs.Endpoint.Answers
import FramedRpc.Proofs.Endpoint.History
import FramedRpc.Proofs.Endpoint.Limit
import FramedRpc.Proofs.Frame.Relay
import FramedRpc.Proofs.Transport.Flow
import FramedRpc.Proofs.Endpoint.Lifecycle
import FramedRpc.Proofs.Endpoint.Framing
import FramedRpc.Proofs.Stream.Reading
import FramedRpc.Proofs.Codec.Shortest
import FramedRpc.Proofs.Cli.Agreement
import FramedRpc.Proofs.Codec.Domain
import FramedRpc.Proofs.Codec.Streaming
import FramedRpc.Proofs.Stream.Sending
import FramedRpc.Proofs.Stream.Coder
import FramedRpc.Proofs.Endpoint.Calling
import FramedRpc.Proofs.Frame.Accounts
import FramedRpc.Proofs.Cli.Integers
import FramedRpc.Proofs.Cli.Deadline
import FramedRpc.Proofs.Endpoint.Listening
import FramedRpc.Proofs.Transport.Ownership
import FramedRpc.Proofs.Endpoint.Registration
import FramedRpc.Proofs.Endpoint.Naming
import FramedRpc.Proofs.Frame.Filling
import FramedRpc.Proofs.Codec.Canonical
