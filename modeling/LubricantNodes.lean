import LubricantNodes.Execution.Drain
import LubricantNodes.Execution.Registry
import LubricantNodes.Execution.Teardown
import LubricantNodes.Execution.Accounting
import LubricantNodes.Execution.Events
import LubricantNodes.Execution.Gateway
import LubricantNodes.Execution.Homes
import LubricantNodes.Execution.Isolation
import LubricantNodes.Execution.Credentials
import LubricantNodes.Agent.Network
import LubricantNodes.Agent.Registration
import LubricantNodes.Agent.Prototext
import LubricantNodes.Agent.Streams
import LubricantNodes.Agent.Separation
import LubricantNodes.Agent.Quota
import LubricantNodes.Agent.Tools
import LubricantNodes.Agent.Reaper
import LubricantNodes.Agent.Replay
import LubricantNodes.Agent.Activation
import LubricantNodes.Agent.Readiness
import LubricantNodes.Agent.Entitlement
import LubricantNodes.Agent.Succession
import LubricantNodes.Agent.Silence
import LubricantNodes.Agent.CredentialFiles
import LubricantNodes.Agent.Restart
import LubricantNodes.Agent.Inventory
import LubricantNodes.Agent.Archives
import LubricantNodes.Execution.FileService
import LubricantNodes.Execution.Guest
import LubricantNodes.Agent.Tunnels
import LubricantNodes.Execution.Tunnel
